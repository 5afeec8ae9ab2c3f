import Stencil.Proofs.Blocks.Grammar
import Stencil.Proofs.Render.Letters

/-!
The tags that faults of rendering point at. Rendering a tree comes to one expression after the
other, each in a context and in a state of the host. Where it fails, it has come to an expression
that fails, and the fault is located at the tag of that expression.
-/

namespace Stencil

variable {State : Type}

structure Inquiry (State : Type) where
  expression : Expression
  location : Location
  scope : Context
  state : State

def Inquiry.Fails (host : Host State) (inquiry : Inquiry State) (error : RenderError) : Prop :=
  error.location = inquiry.location ∧
    (inquiry.expression.eval host inquiry.scope inquiry.state).1 = .error error.fault

mutual

inductive Node.Asks (host : Host State) : Context → State → Node → Inquiry State → Prop
  | output {context state expression location} :
      Node.Asks host context state (.output expression location)
        ⟨expression, location, context, state⟩
  | iterable {context state variableName iterable body location} :
      Node.Asks host context state (.forLoop variableName iterable body location)
        ⟨iterable, location, context, state⟩
  | inLoop {context state variableName iterable body location value later inquiry} :
      iterable.eval host context state = (.ok value, later) →
      Node.BodiesAsk host context variableName body later value.loopItems inquiry →
      Node.Asks host context state (.forLoop variableName iterable body location) inquiry
  | condition {context state condition body alternatives location} :
      Node.Asks host context state (.ifBranch condition body alternatives location)
        ⟨condition, location, context, state⟩
  | inBranch {context state condition body alternatives location value later inquiry} :
      condition.eval host context state = (.ok value, later) → value.isTruthy = true →
      Node.AllAsk host context later body inquiry →
      Node.Asks host context state (.ifBranch condition body alternatives location) inquiry
  | otherwise {context state condition body alternatives location value later inquiry} :
      condition.eval host context state = (.ok value, later) → value.isTruthy = false →
      Alternatives.Ask host context later alternatives inquiry →
      Node.Asks host context state (.ifBranch condition body alternatives location) inquiry

inductive Node.AllAsk (host : Host State) : Context → State → List Node → Inquiry State → Prop
  | here {context state node nodes inquiry} : Node.Asks host context state node inquiry →
      Node.AllAsk host context state (node :: nodes) inquiry
  | behind {context state node nodes text later inquiry} :
      Node.render host context node state = (.ok text, later) →
      Node.AllAsk host context later nodes inquiry →
      Node.AllAsk host context state (node :: nodes) inquiry

inductive Node.BodiesAsk (host : Host State) :
    Context → String → List Node → State → List Value → Inquiry State → Prop
  | here {context variableName body state item items inquiry} :
      Node.AllAsk host (context.child variableName item) state body inquiry →
      Node.BodiesAsk host context variableName body state (item :: items) inquiry
  | behind {context variableName body state item items text later inquiry} :
      Node.renderAll host (context.child variableName item) body state = (.ok text, later) →
      Node.BodiesAsk host context variableName body later items inquiry →
      Node.BodiesAsk host context variableName body state (item :: items) inquiry

inductive Alternatives.Ask (host : Host State) :
    Context → State → Alternatives → Inquiry State → Prop
  | elseBranch {context state body inquiry} : Node.AllAsk host context state body inquiry →
      Alternatives.Ask host context state (.elseBranch body) inquiry
  | condition {context state condition body alternatives location} :
      Alternatives.Ask host context state (.elseIf condition body alternatives location)
        ⟨condition, location, context, state⟩
  | inBranch {context state condition body alternatives location value later inquiry} :
      condition.eval host context state = (.ok value, later) → value.isTruthy = true →
      Node.AllAsk host context later body inquiry →
      Alternatives.Ask host context state (.elseIf condition body alternatives location) inquiry
  | otherwise {context state condition body alternatives location value later inquiry} :
      condition.eval host context state = (.ok value, later) → value.isTruthy = false →
      Alternatives.Ask host context later alternatives inquiry →
      Alternatives.Ask host context state (.elseIf condition body alternatives location) inquiry

end

namespace Evaluation

variable {Failure α β : Type}

theorem bind_fails {step : Evaluation State Failure α} {next : α → Evaluation State Failure β}
    {state : State} {failure : Failure} (failed : ((step >>= next) state).1 = .error failure) :
    (step state).1 = .error failure ∨
      ∃ value later, step state = (.ok value, later) ∧ (next value later).1 = .error failure := by
  rw [bind_run] at failed
  rcases outcome : step state with ⟨result, later⟩
  cases result with
  | error other =>
      simp only [outcome] at failed
      exact .inl (congrArg Except.error (Except.error.inj failed))
  | ok value =>
      simp only [outcome] at failed
      exact .inr ⟨value, later, rfl, failed⟩

theorem bind_pure_fails {step : Evaluation State Failure α} {change : α → β} {state : State}
    {failure : Failure}
    (failed : ((do return change (← step) : Evaluation State Failure β) state).1 = .error failure) :
    (step state).1 = .error failure := by
  rcases bind_fails failed with failed | ⟨value, later, _, done⟩
  · exact failed
  · exact absurd done nofun

end Evaluation

open Evaluation

theorem Expression.evalAt_run (host : Host State) (context : Context) (expression : Expression)
    (location : Location) (state : State) :
    expression.evalAt host context location state =
      ((expression.eval host context state).1.mapError fun fault => ⟨fault, location⟩,
        (expression.eval host context state).2) := by
  rw [evalAt, adapt_run]

theorem Expression.fails_of_evalAt {host : Host State} {context : Context}
    {expression : Expression} {location : Location} {state : State} {error : RenderError}
    (failed : (expression.evalAt host context location state).1 = .error error) :
    Inquiry.Fails host ⟨expression, location, context, state⟩ error := by
  rw [evalAt_run] at failed
  cases outcome : (expression.eval host context state).1 with
  | ok value => simp [outcome, Except.mapError] at failed
  | error fault =>
      simp only [outcome, Except.mapError, Except.error.injEq] at failed
      subst failed
      exact ⟨rfl, outcome⟩

theorem Expression.eval_of_evalAt {host : Host State} {context : Context}
    {expression : Expression} {location : Location} {state later : State} {value : Value}
    (answered : expression.evalAt host context location state = (.ok value, later)) :
    expression.eval host context state = (.ok value, later) := by
  rw [evalAt_run] at answered
  rcases outcome : expression.eval host context state with ⟨result, after⟩
  cases result with
  | error fault =>
      rw [outcome] at answered
      exact absurd (congrArg Prod.fst answered) nofun
  | ok other =>
      rw [outcome] at answered
      obtain ⟨same, rfl⟩ := Prod.mk.inj answered
      rw [Except.ok.inj same]

theorem Expression.fails_of_condition {host : Host State} {context : Context}
    {condition : Expression} {location : Location} {state : State} {error : RenderError}
    {body others : Evaluation State RenderError String}
    (failed : ((do
      if (← condition.evalAt host context location).isTruthy then body else others :
        Evaluation State RenderError String) state).1 = .error error) :
    Inquiry.Fails host ⟨condition, location, context, state⟩ error ∨
      ∃ value later, condition.eval host context state = (.ok value, later) ∧
        (value.isTruthy = true ∧ (body later).1 = .error error ∨
          value.isTruthy = false ∧ (others later).1 = .error error) := by
  rcases bind_fails failed with failed | ⟨value, later, answered, failed⟩
  · exact .inl (fails_of_evalAt failed)
  · refine .inr ⟨value, later, eval_of_evalAt answered, ?_⟩
    cases truth : value.isTruthy with
    | true =>
        rw [if_pos truth] at failed
        exact .inl ⟨rfl, failed⟩
    | false =>
        rw [if_neg (by simp [truth])] at failed
        exact .inr ⟨rfl, failed⟩

namespace Node

theorem exists_bodiesAsk {host : Host State} {context : Context} {variableName : String}
    {body : List Node}
    (inside : ∀ context state error, (renderAll host context body state).1 = .error error →
      ∃ inquiry, AllAsk host context state body inquiry ∧ inquiry.Fails host error)
    (items : List Value) (state : State) (error : RenderError)
    (failed : (items.mapM (fun item => renderAll host (context.child variableName item) body)
      state).1 = .error error) :
    ∃ inquiry, BodiesAsk host context variableName body state items inquiry ∧
      inquiry.Fails host error := by
  induction items generalizing state with
  | nil => exact absurd failed nofun
  | cons item items ih =>
      rw [List.mapM_cons] at failed
      rcases bind_fails failed with failed | ⟨text, later, first, failed⟩
      · obtain ⟨inquiry, asks, fails⟩ := inside _ state error failed
        exact ⟨inquiry, .here asks, fails⟩
      · obtain ⟨inquiry, asks, fails⟩ := ih later (bind_pure_fails failed)
        exact ⟨inquiry, .behind first asks, fails⟩

mutual

theorem exists_asks {host : Host State} : (node : Node) → (context : Context) → (state : State) →
    (error : RenderError) → (render host context node state).1 = .error error →
    ∃ inquiry, Asks host context state node inquiry ∧ inquiry.Fails host error
  | .plain text, _, _, _, failed => by
      rw [render] at failed
      exact absurd failed nofun
  | .output expression location, context, state, error, failed => by
      rw [render] at failed
      exact ⟨_, .output, Expression.fails_of_evalAt (bind_pure_fails failed)⟩
  | .forLoop variableName iterable body location, context, state, error, failed => by
      rw [render] at failed
      rcases bind_fails failed with failed | ⟨value, later, answered, failed⟩
      · exact ⟨_, .iterable, Expression.fails_of_evalAt failed⟩
      · obtain ⟨inquiry, asks, fails⟩ :=
          exists_bodiesAsk (exists_allAsk body) value.loopItems later error (bind_pure_fails failed)
        exact ⟨inquiry, .inLoop (Expression.eval_of_evalAt answered) asks, fails⟩
  | .ifBranch condition body alternatives location, context, state, error, failed => by
      rw [render] at failed
      rcases Expression.fails_of_condition failed with
        fails | ⟨value, later, answered, ⟨truth, failed⟩ | ⟨truth, failed⟩⟩
      · exact ⟨_, .condition, fails⟩
      · obtain ⟨inquiry, asks, fails⟩ := exists_allAsk body context later error failed
        exact ⟨inquiry, .inBranch answered truth asks, fails⟩
      · obtain ⟨inquiry, asks, fails⟩ :=
          exists_alternativesAsk alternatives context later error failed
        exact ⟨inquiry, .otherwise answered truth asks, fails⟩

theorem exists_allAsk {host : Host State} : (nodes : List Node) → (context : Context) →
    (state : State) → (error : RenderError) →
    (renderAll host context nodes state).1 = .error error →
    ∃ inquiry, AllAsk host context state nodes inquiry ∧ inquiry.Fails host error
  | [], _, _, _, failed => by
      rw [renderAll] at failed
      exact absurd failed nofun
  | node :: nodes, context, state, error, failed => by
      rw [renderAll] at failed
      rcases bind_fails failed with failed | ⟨text, later, first, failed⟩
      · obtain ⟨inquiry, asks, fails⟩ := exists_asks node context state error failed
        exact ⟨inquiry, .here asks, fails⟩
      · obtain ⟨inquiry, asks, fails⟩ :=
          exists_allAsk nodes context later error (bind_pure_fails failed)
        exact ⟨inquiry, .behind first asks, fails⟩

theorem exists_alternativesAsk {host : Host State} : (alternatives : Alternatives) →
    (context : Context) → (state : State) → (error : RenderError) →
    (renderAlternatives host context alternatives state).1 = .error error →
    ∃ inquiry, Alternatives.Ask host context state alternatives inquiry ∧
      inquiry.Fails host error
  | .none, _, _, _, failed => by
      rw [renderAlternatives] at failed
      exact absurd failed nofun
  | .elseBranch body, context, state, error, failed => by
      rw [renderAlternatives] at failed
      obtain ⟨inquiry, asks, fails⟩ := exists_allAsk body context state error failed
      exact ⟨inquiry, .elseBranch asks, fails⟩
  | .elseIf condition body alternatives location, context, state, error, failed => by
      rw [renderAlternatives] at failed
      rcases Expression.fails_of_condition failed with
        fails | ⟨value, later, answered, ⟨truth, failed⟩ | ⟨truth, failed⟩⟩
      · exact ⟨_, .condition, fails⟩
      · obtain ⟨inquiry, asks, fails⟩ := exists_allAsk body context later error failed
        exact ⟨inquiry, .inBranch answered truth asks, fails⟩
      · obtain ⟨inquiry, asks, fails⟩ :=
          exists_alternativesAsk alternatives context later error failed
        exact ⟨inquiry, .otherwise answered truth asks, fails⟩

end

end Node

def Part.inquiry? : Part → Option (Expression × Location)
  | .output expression location => some (expression, location)
  | .loopStart _ iterable location => some (iterable, location)
  | .branchStart condition location => some (condition, location)
  | .elseIf condition location => some (condition, location)
  | _ => none

def Inquiry.AskedBy (inquiry : Inquiry State) (parts : List Part) : Prop :=
  ∃ part ∈ parts, part.inquiry? = some (inquiry.expression, inquiry.location)

theorem Inquiry.AskedBy.mono {inquiry : Inquiry State} {own parts : List Part}
    (asked : inquiry.AskedBy own) (subset : own ⊆ parts) : inquiry.AskedBy parts := by
  obtain ⟨part, member, same⟩ := asked
  exact ⟨part, subset member, same⟩

theorem Node.BodiesAsk.exists_allAsk {host : Host State} {context : Context}
    {variableName : String} {body : List Node} {inquiry : Inquiry State} :
    (items : List Value) → (state : State) →
      Node.BodiesAsk host context variableName body state items inquiry →
      ∃ scope later, Node.AllAsk host scope later body inquiry
  | _ :: _, _, .here asks => ⟨_, _, asks⟩
  | _ :: items, _, .behind _ asks => exists_allAsk items _ asks

mutual

theorem Node.Asks.askedBy {host : Host State} {inquiry : Inquiry State} : (node : Node) →
    (context : Context) → (state : State) → Node.Asks host context state node inquiry →
    inquiry.AskedBy node.parts
  | .plain _, _, _, asks => nomatch asks
  | .output _ _, _, _, .output => ⟨_, List.mem_cons_self .., rfl⟩
  | .forLoop _ _ body _, context, state, asks => by
      cases asks with
      | iterable => exact ⟨_, List.mem_cons_self .., rfl⟩
      | inLoop _ asks =>
          obtain ⟨scope, later, asks⟩ := asks.exists_allAsk
          exact (Node.AllAsk.askedBy body scope later asks).mono (by simp [Node.parts])
  | .ifBranch _ body alternatives _, context, state, asks => by
      cases asks with
      | condition => exact ⟨_, List.mem_cons_self .., rfl⟩
      | inBranch _ _ asks =>
          exact (Node.AllAsk.askedBy body context _ asks).mono (by simp [Node.parts])
      | otherwise _ _ asks =>
          have asked := Alternatives.Ask.askedBy alternatives context _ asks
          apply asked.mono
          intro part member
          simp [Node.parts, member]

theorem Node.AllAsk.askedBy {host : Host State} {inquiry : Inquiry State} : (nodes : List Node) →
    (context : Context) → (state : State) → Node.AllAsk host context state nodes inquiry →
    inquiry.AskedBy (Node.allParts nodes)
  | [], _, _, asks => nomatch asks
  | node :: nodes, context, state, asks => by
      cases asks with
      | here asks => exact (Node.Asks.askedBy node context state asks).mono (by simp [Node.allParts])
      | behind _ asks =>
          exact (Node.AllAsk.askedBy nodes context _ asks).mono (by simp [Node.allParts])

theorem Alternatives.Ask.askedBy {host : Host State} {inquiry : Inquiry State} :
    (alternatives : Alternatives) → (context : Context) → (state : State) →
    Alternatives.Ask host context state alternatives inquiry →
    inquiry.AskedBy alternatives.parts
  | .none, _, _, asks => nomatch asks
  | .elseBranch body, context, state, .elseBranch asks =>
      (Node.AllAsk.askedBy body context state asks).mono (by simp [Alternatives.parts])
  | .elseIf _ body alternatives _, context, state, asks => by
      cases asks with
      | condition => exact ⟨_, List.mem_cons_self .., rfl⟩
      | inBranch _ _ asks =>
          exact (Node.AllAsk.askedBy body context _ asks).mono (by simp [Alternatives.parts])
      | otherwise _ _ asks =>
          exact (Alternatives.Ask.askedBy alternatives context _ asks).mono
            (by simp [Alternatives.parts])

end

end Stencil
