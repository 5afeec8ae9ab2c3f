import Stencil.Proofs.Diagnostics.Faults

/-!
The expressions that rendering a template comes to, one after the other, each with its address in the
tree. An expression in the body of a loop has one address and may be visited many times. Rendering
ends at the first visit that fails.
-/

namespace Stencil

inductive Turn where
  | first
  | behind
  | body
  | otherwise
  deriving DecidableEq

abbrev Address := List Turn

structure Visit (State : Type) where
  address : Address
  inquiry : Inquiry State

variable {State Failure α β : Type}

namespace Visit

def below (turn : Turn) (visit : Visit State) : Visit State :=
  { visit with address := turn :: visit.address }

def after (step : Evaluation State Failure α) (next : α → State → List (Visit State))
    (state : State) : List (Visit State) :=
  match step state with
  | (.ok value, later) => next value later
  | (.error _, _) => []

def ofItems (render : Value → Evaluation State RenderError String)
    (visits : Value → State → List (Visit State)) : List Value → State → List (Visit State)
  | [], _ => []
  | item :: items, state =>
      visits item state ++ after (render item) (fun _ => ofItems render visits items) state

end Visit

open Visit

mutual

/-- The expressions that rendering a node comes to, in the order in which they are evaluated. -/
def Node.visits (host : Host State) (context : Context) : Node → State → List (Visit State)
  | .plain _, _ => []
  | .output expression location, state => [⟨[], expression, location, context, state⟩]
  | .forLoop variableName iterable body location, state =>
      ⟨[], iterable, location, context, state⟩ ::
        after (iterable.evalAt host context location)
          (fun value later =>
            (ofItems (fun item => Node.renderAll host (context.child variableName item) body)
              (fun item => Node.visitsOfAll host (context.child variableName item) body)
              value.loopItems later).map (below .body)) state
  | .ifBranch condition body alternatives location, state =>
      ⟨[], condition, location, context, state⟩ ::
        after (condition.evalAt host context location)
          (fun value later =>
            if value.isTruthy then (Node.visitsOfAll host context body later).map (below .body)
            else (alternatives.visits host context later).map (below .otherwise)) state

def Node.visitsOfAll (host : Host State) (context : Context) :
    List Node → State → List (Visit State)
  | [], _ => []
  | node :: nodes, state =>
      (node.visits host context state).map (below .first) ++
        after (Node.render host context node)
          (fun _ later => (Node.visitsOfAll host context nodes later).map (below .behind)) state

def Alternatives.visits (host : Host State) (context : Context) :
    Alternatives → State → List (Visit State)
  | .none, _ => []
  | .elseBranch body, state => (Node.visitsOfAll host context body state).map (below .body)
  | .elseIf condition body alternatives location, state =>
      ⟨[], condition, location, context, state⟩ ::
        after (condition.evalAt host context location)
          (fun value later =>
            if value.isTruthy then (Node.visitsOfAll host context body later).map (below .body)
            else (alternatives.visits host context later).map (below .otherwise)) state

end

variable {host : Host State} {context : Context} {state : State}

theorem Visit.after_of_ok {step : Evaluation State Failure α}
    {next : α → State → List (Visit State)} {value : α} {later : State}
    (answered : step state = (.ok value, later)) : after step next state = next value later := by
  rw [after, answered]

theorem Visit.after_of_error {step : Evaluation State Failure α}
    {next : α → State → List (Visit State)} {failure : Failure} {later : State}
    (failed : step state = (.error failure, later)) : after step next state = [] := by
  rw [after, failed]

def Inquiry.Answers (host : Host State) (inquiry : Inquiry State) : Prop :=
  ∃ value, (inquiry.expression.eval host inquiry.scope inquiry.state).1 = .ok value

/-- All visits but the last are answered, and the last one is unless it is the cause of an error. -/
def Closes (host : Host State) (visits : List (Visit State)) : Except RenderError α → Prop
  | .ok _ => ∀ visit ∈ visits, visit.inquiry.Answers host
  | .error error => ∃ front last, visits = front ++ [last] ∧
      (∀ visit ∈ front, visit.inquiry.Answers host) ∧ last.inquiry.Fails host error

theorem Closes.below {visits : List (Visit State)} {outcome : Except RenderError α} (turn : Turn)
    (closes : Closes host visits outcome) : Closes host (visits.map (below turn)) outcome := by
  cases outcome with
  | ok value =>
      intro visit member
      obtain ⟨own, among, rfl⟩ := List.mem_map.mp member
      exact closes own among
  | error error =>
      obtain ⟨front, last, rfl, answered, fails⟩ := closes
      refine ⟨front.map (Visit.below turn), last.below turn, ?_, ?_, fails⟩
      · rw [List.map_append, List.map_singleton]
      · intro visit member
        obtain ⟨own, among, rfl⟩ := List.mem_map.mp member
        exact answered own among

theorem Closes.bind {visits : List (Visit State)} {step : Evaluation State RenderError α}
    {next : α → Evaluation State RenderError β} {nextVisits : α → State → List (Visit State)}
    (first : Closes host visits (step state).1)
    (others : ∀ value later, step state = (.ok value, later) →
      Closes host (nextVisits value later) (next value later).1) :
    Closes host (visits ++ after step nextVisits state) ((step >>= next) state).1 := by
  rw [Evaluation.bind_run]
  rcases outcome : step state with ⟨result, later⟩
  rw [outcome] at first
  cases result with
  | error error =>
      rw [after_of_error outcome, List.append_nil]
      exact first
  | ok value =>
      rw [after_of_ok outcome]
      have rest := others value later outcome
      show Closes host (visits ++ nextVisits value later) (next value later).1
      cases final : (next value later).1 with
      | ok result =>
          rw [final] at rest
          intro visit member
          rcases List.mem_append.mp member with earlier | among
          · exact first visit earlier
          · exact rest visit among
      | error error =>
          rw [final] at rest
          obtain ⟨front, last, same, answered, fails⟩ := rest
          refine ⟨visits ++ front, last, ?_, ?_, fails⟩
          · rw [same, List.append_assoc]
          · intro visit member
            rcases List.mem_append.mp member with earlier | among
            · exact first visit earlier
            · exact answered visit among

theorem closes_pure (value : α) :
    Closes host [] ((pure value : Evaluation State RenderError α) state).1 := by
  intro visit member
  exact absurd member List.not_mem_nil

theorem Closes.map {visits : List (Visit State)} {step : Evaluation State RenderError α}
    (closes : Closes host visits (step state).1) (change : α → β) :
    Closes host visits ((do return change (← step) : Evaluation State RenderError β) state).1 := by
  have nothing : after step (fun _ _ => []) state = ([] : List (Visit State)) := by
    rw [after]
    split <;> rfl
  rw [← List.append_nil visits, ← nothing]
  exact closes.bind fun value later _ => closes_pure _

theorem closes_evalAt (expression : Expression) (location : Location) :
    Closes host [⟨[], expression, location, context, state⟩]
      (expression.evalAt host context location state).1 := by
  rw [Expression.evalAt_run]
  cases outcome : (expression.eval host context state).1 with
  | ok value =>
      intro visit member
      obtain rfl := List.mem_singleton.mp member
      exact ⟨value, outcome⟩
  | error fault =>
      refine ⟨[], _, rfl, ?_, rfl, outcome⟩
      intro visit member
      exact absurd member List.not_mem_nil

namespace Node

theorem closes_items {render : Value → Evaluation State RenderError String}
    {visits : Value → State → List (Visit State)}
    (each : ∀ item state, Closes host (visits item state) (render item state).1)
    (items : List Value) (state : State) :
    Closes host (ofItems render visits items state) (items.mapM render state).1 := by
  induction items generalizing state with
  | nil => exact closes_pure _
  | cons item items ih =>
      rw [List.mapM_cons, ofItems]
      exact (each item state).bind fun text later _ => (ih later).map _

mutual

theorem closes_render : (node : Node) → (context : Context) → (state : State) →
    Closes host (node.visits host context state) (render host context node state).1
  | .plain text, _, _ => by
      rw [visits, render]
      exact closes_pure _
  | .output expression location, _, _ => by
      rw [visits, render]
      exact (closes_evalAt expression location).map _
  | .forLoop variableName iterable body location, context, state => by
      rw [visits, render]
      refine (closes_evalAt iterable location).bind fun value later _ => ?_
      have bodies := closes_items
        (fun item state => closes_renderAll body (context.child variableName item) state)
        value.loopItems later
      exact (bodies.below .body).map _
  | .ifBranch condition body alternatives location, context, state => by
      rw [visits, render]
      refine (closes_evalAt condition location).bind fun value later _ => ?_
      split
      · exact (closes_renderAll body context later).below .body
      · exact (closes_renderAlternatives alternatives context later).below .otherwise

theorem closes_renderAll : (nodes : List Node) → (context : Context) → (state : State) →
    Closes host (visitsOfAll host context nodes state) (renderAll host context nodes state).1
  | [], _, _ => by
      rw [visitsOfAll, renderAll]
      exact closes_pure _
  | node :: nodes, context, state => by
      rw [visitsOfAll, renderAll]
      refine ((closes_render node context state).below .first).bind fun front later _ => ?_
      exact ((closes_renderAll nodes context later).below .behind).map _

theorem closes_renderAlternatives : (alternatives : Alternatives) → (context : Context) →
    (state : State) → Closes host (alternatives.visits host context state)
      (renderAlternatives host context alternatives state).1
  | .none, _, _ => by
      rw [Alternatives.visits, renderAlternatives]
      exact closes_pure _
  | .elseBranch body, context, state => by
      rw [Alternatives.visits, renderAlternatives]
      exact (closes_renderAll body context state).below .body
  | .elseIf condition body alternatives location, context, state => by
      rw [Alternatives.visits, renderAlternatives]
      refine (closes_evalAt condition location).bind fun value later _ => ?_
      split
      · exact (closes_renderAll body context later).below .body
      · exact (closes_renderAlternatives alternatives context later).below .otherwise

end

end Node

theorem Expression.evalAt_of_eval {expression : Expression} {location : Location} {value : Value}
    {later : State} (answered : expression.eval host context state = (.ok value, later)) :
    expression.evalAt host context location state = (.ok value, later) := by
  rw [evalAt_run, answered]
  rfl

namespace Node

variable {inquiry : Inquiry State}

def Visited (visits : List (Visit State)) (inquiry : Inquiry State) : Prop :=
  ∃ visit ∈ visits, visit.inquiry = inquiry

theorem visited_cons {visit : Visit State} {visits : List (Visit State)} :
    Visited (visit :: visits) inquiry ↔ visit.inquiry = inquiry ∨ Visited visits inquiry := by
  simp [Visited]

theorem visited_append {visits others : List (Visit State)} :
    Visited (visits ++ others) inquiry ↔ Visited visits inquiry ∨ Visited others inquiry := by
  simp only [Visited, List.mem_append, or_and_right, exists_or]

theorem visited_below {visits : List (Visit State)} {turn : Turn} :
    Visited (visits.map (below turn)) inquiry ↔ Visited visits inquiry := by
  simp [Visited, below]

theorem visited_after {step : Evaluation State Failure α}
    {next : α → State → List (Visit State)} :
    Visited (after step next state) inquiry ↔
      ∃ value later, step state = (.ok value, later) ∧ Visited (next value later) inquiry := by
  constructor
  · rintro ⟨visit, member, same⟩
    rw [after] at member
    split at member
    · rename_i value later answered
      exact ⟨value, later, answered, visit, member, same⟩
    · exact absurd member List.not_mem_nil
  · rintro ⟨value, later, answered, visited⟩
    rwa [after_of_ok answered]

theorem visited_after_evalAt {expression : Expression} {location : Location}
    {next : Value → State → List (Visit State)} :
    Visited (after (expression.evalAt host context location) next state) inquiry ↔
      ∃ value later, expression.eval host context state = (.ok value, later) ∧
        Visited (next value later) inquiry := by
  rw [visited_after]
  constructor
  · rintro ⟨value, later, answered, visited⟩
    exact ⟨value, later, Expression.eval_of_evalAt answered, visited⟩
  · rintro ⟨value, later, answered, visited⟩
    exact ⟨value, later, Expression.evalAt_of_eval answered, visited⟩

theorem visited_choice {condition : Expression} {location : Location}
    {body otherwise : State → List (Visit State)} :
    Visited (after (condition.evalAt host context location)
        (fun value later => if value.isTruthy then (body later).map (below .body)
          else (otherwise later).map (below .otherwise)) state) inquiry ↔
      (∃ value later, condition.eval host context state = (.ok value, later) ∧
        value.isTruthy = true ∧ Visited (body later) inquiry) ∨
      ∃ value later, condition.eval host context state = (.ok value, later) ∧
        value.isTruthy = false ∧ Visited (otherwise later) inquiry := by
  rw [visited_after_evalAt]
  constructor
  · rintro ⟨value, later, answered, visited⟩
    by_cases truth : value.isTruthy = true
    · rw [if_pos truth, visited_below] at visited
      exact .inl ⟨value, later, answered, truth, visited⟩
    · rw [if_neg truth, visited_below] at visited
      exact .inr ⟨value, later, answered, Bool.eq_false_iff.mpr truth, visited⟩
  · rintro (⟨value, later, answered, truth, visited⟩ | ⟨value, later, answered, truth, visited⟩)
    · refine ⟨value, later, answered, ?_⟩
      rwa [if_pos truth, visited_below]
    · refine ⟨value, later, answered, ?_⟩
      rwa [if_neg (Bool.eq_false_iff.mp truth), visited_below]

theorem bodiesAsk_iff {variableName : String} {body : List Node}
    (inside : ∀ context state, AllAsk host context state body inquiry ↔
      Visited (visitsOfAll host context body state) inquiry)
    (items : List Value) (state : State) :
    BodiesAsk host context variableName body state items inquiry ↔
      Visited (ofItems (fun item => renderAll host (context.child variableName item) body)
        (fun item => visitsOfAll host (context.child variableName item) body) items state)
        inquiry := by
  induction items generalizing state with
  | nil =>
      constructor
      · nofun
      · simp [ofItems, Visited]
  | cons item items ih =>
      rw [ofItems, visited_append, visited_after, ← inside]
      constructor
      · rintro (asks | ⟨rendered, asks⟩)
        · exact .inl asks
        · exact .inr ⟨_, _, rendered, (ih _).mp asks⟩
      · rintro (asks | ⟨text, later, rendered, visited⟩)
        · exact .here asks
        · exact .behind rendered ((ih later).mpr visited)

mutual

theorem asks_iff : (node : Node) → (context : Context) → (state : State) →
    (Asks host context state node inquiry ↔ Visited (node.visits host context state) inquiry)
  | .plain _, _, _ => by
      rw [visits]
      constructor
      · nofun
      · simp [Visited]
  | .output expression location, context, state => by
      rw [visits, visited_cons]
      constructor
      · rintro ⟨⟩
        exact .inl rfl
      · rintro (rfl | visited)
        · exact .output
        · simp [Visited] at visited
  | .forLoop variableName iterable body location, context, state => by
      rw [visits, visited_cons, visited_after_evalAt]
      simp only [visited_below,
        ← bodiesAsk_iff (fun context state => allAsk_iff body context state)]
      constructor
      · intro asks
        cases asks with
        | iterable => exact .inl rfl
        | inLoop answered asks => exact .inr ⟨_, _, answered, asks⟩
      · rintro (rfl | ⟨value, later, answered, asks⟩)
        · exact .iterable
        · exact .inLoop answered asks
  | .ifBranch condition body alternatives location, context, state => by
      rw [visits, visited_cons, visited_choice]
      constructor
      · intro asks
        cases asks with
        | condition => exact .inl rfl
        | inBranch answered truth asks =>
            exact .inr (.inl ⟨_, _, answered, truth, (allAsk_iff body context _).mp asks⟩)
        | otherwise answered truth asks =>
            exact .inr (.inr ⟨_, _, answered, truth, (ask_iff alternatives context _).mp asks⟩)
      · rintro (rfl | ⟨_, later, answered, truth, visited⟩ | ⟨_, later, answered, truth, visited⟩)
        · exact .condition
        · exact .inBranch answered truth ((allAsk_iff body context later).mpr visited)
        · exact .otherwise answered truth ((ask_iff alternatives context later).mpr visited)

/-- The inquiries of the visits are those that rendering comes to. -/
theorem allAsk_iff : (nodes : List Node) → (context : Context) → (state : State) →
    (AllAsk host context state nodes inquiry ↔
      Visited (visitsOfAll host context nodes state) inquiry)
  | [], _, _ => by
      rw [visitsOfAll]
      constructor
      · nofun
      · simp [Visited]
  | node :: nodes, context, state => by
      rw [visitsOfAll, visited_append, visited_below, visited_after]
      simp only [visited_below]
      constructor
      · rintro (asks | ⟨rendered, asks⟩)
        · exact .inl ((asks_iff node context state).mp asks)
        · exact .inr ⟨_, _, rendered, (allAsk_iff nodes context _).mp asks⟩
      · rintro (visited | ⟨text, later, rendered, visited⟩)
        · exact .here ((asks_iff node context state).mpr visited)
        · exact .behind rendered ((allAsk_iff nodes context later).mpr visited)

theorem ask_iff : (alternatives : Alternatives) → (context : Context) → (state : State) →
    (Alternatives.Ask host context state alternatives inquiry ↔
      Visited (alternatives.visits host context state) inquiry)
  | .none, _, _ => by
      rw [Alternatives.visits]
      constructor
      · nofun
      · simp [Visited]
  | .elseBranch body, context, state => by
      rw [Alternatives.visits, visited_below, ← allAsk_iff body context state]
      constructor
      · rintro ⟨asks⟩
        exact asks
      · exact .elseBranch
  | .elseIf condition body alternatives location, context, state => by
      rw [Alternatives.visits, visited_cons, visited_choice]
      constructor
      · intro asks
        cases asks with
        | condition => exact .inl rfl
        | inBranch answered truth asks =>
            exact .inr (.inl ⟨_, _, answered, truth, (allAsk_iff body context _).mp asks⟩)
        | otherwise answered truth asks =>
            exact .inr (.inr ⟨_, _, answered, truth, (ask_iff alternatives context _).mp asks⟩)
      · rintro (rfl | ⟨_, later, answered, truth, visited⟩ | ⟨_, later, answered, truth, visited⟩)
        · exact .condition
        · exact .inBranch answered truth ((allAsk_iff body context later).mpr visited)
        · exact .otherwise answered truth ((ask_iff alternatives context later).mpr visited)

end

end Node

end Stencil
