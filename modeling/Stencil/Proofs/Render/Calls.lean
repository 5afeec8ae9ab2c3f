import Stencil.Proofs.Diagnostics.Faults
import Stencil.Proofs.Expr.Calls

/-!
Templates call only what they find in the context, or in what earlier calls have answered. Where the
context has no functions in it, a template makes no calls and never comes to a function.
-/

namespace Stencil

namespace Context

variable {context : Context} {function : Function}

def FunctionFree (context : Context) : Prop :=
  ∀ name value, context.get? name = some value → value.functions = []

theorem FunctionFree.not_holds (free : context.FunctionFree) (function : Function) :
    ¬ context.Holds function := by
  rintro ⟨name, value, found, member⟩
  rw [free name value found] at member
  exact List.not_mem_nil member

theorem holds_child {variableName : String} {item : Value}
    (holds : (context.child variableName item).Holds function) :
    context.Holds function ∨ function ∈ item.functions := by
  obtain ⟨name, value, found, member⟩ := holds
  rw [get?_child] at found
  by_cases bound : name = variableName
  · rw [if_pos bound] at found
    exact .inr (Option.some.inj found ▸ member)
  · rw [if_neg bound] at found
    exact .inl ⟨name, value, found, member⟩

theorem FunctionFree.child (free : context.FunctionFree) (variableName : String) {item : Value}
    (plain : item.functions = []) : (context.child variableName item).FunctionFree := by
  intro name value found
  rw [get?_child] at found
  by_cases bound : name = variableName
  · rw [if_pos bound] at found
    exact Option.some.inj found ▸ plain
  · rw [if_neg bound] at found
    exact free name value found

end Context

theorem Value.functions_loopItems {value item : Value} {function : Function}
    (among : item ∈ value.loopItems) (member : function ∈ item.functions) :
    function ∈ value.functions := by
  cases value with
  | array items =>
      rw [functions, mem_functionsOfItems]
      exact ⟨item, among, member⟩
  | _ => simp [loopItems] at among

variable {State : Type} {host : Host State} {context : Context}
  {held given : Function → Prop}

theorem Expression.traced_eval (expression : Expression) :
    Traced held context.Holds id Value.functions (expression.eval host.recorded context)
      (expression.eval host context) := by
  rw [eval, eval]
  cases expression.compiled with
  | error fault => exact traced_throw fun _ => trivial
  | ok expr => exact expr.traced_eval

theorem Expression.traced_evalAt (expression : Expression) (location : Location) :
    Traced held context.Holds RenderError.fault Value.functions
      (expression.evalAt host.recorded context location)
      (expression.evalAt host context location) :=
  expression.traced_eval.adapt fun _ => rfl

namespace Node

def noFunctions {α : Type} (_ : α) : List Function := []

theorem traced_output {Failure α β : Type} {faultOf : Failure → Fault} {before : α → List Function}
    {recorded : Evaluation (State × List Call) Failure α} {plain : Evaluation State Failure α}
    (traced : Traced held given faultOf before recorded plain) (change : α → β) :
    Traced held given faultOf noFunctions (do return change (← recorded))
      (do return change (← plain)) :=
  traced.bind fun _ => traced_pure (by simp [noFunctions])

theorem traced_mapM {items : List Value}
    {recorded : Value → Evaluation (State × List Call) RenderError String}
    {plain : Value → Evaluation State RenderError String}
    (each : ∀ item ∈ items,
      Traced held given RenderError.fault noFunctions (recorded item) (plain item)) :
    Traced held given RenderError.fault noFunctions (items.mapM recorded) (items.mapM plain) := by
  induction items with
  | nil => exact traced_pure (by simp [noFunctions])
  | cons item items ih =>
      rw [List.mapM_cons, List.mapM_cons]
      refine (each item List.mem_cons_self).bind fun text => ?_
      have others := ih fun other member => each other (List.mem_cons_of_mem item member)
      exact traced_output (others.mono fun _ => .inl) _

mutual

theorem traced_render (context : Context) : (node : Node) →
    Traced held context.Holds RenderError.fault noFunctions (render host.recorded context node)
      (render host context node)
  | .plain text => by
      rw [render, render]
      exact traced_pure (by simp [noFunctions])
  | .output expression location => by
      rw [render, render]
      exact traced_output (expression.traced_evalAt location) _
  | .forLoop variableName iterable body location => by
      rw [render, render]
      refine (iterable.traced_evalAt location).bind fun value => ?_
      refine traced_output (traced_mapM ?_) _
      intro item among
      apply (traced_renderAll (context.child variableName item) body).mono
      intro function holds
      rcases Context.holds_child holds with outer | inside
      · exact .inl outer
      · exact .inr (Value.functions_loopItems among inside)
  | .ifBranch condition body alternatives location => by
      rw [render, render]
      refine (condition.traced_evalAt location).bind fun value => ?_
      split
      · exact (traced_renderAll context body).mono fun _ => .inl
      · exact (traced_renderAlternatives context alternatives).mono fun _ => .inl

theorem traced_renderAll (context : Context) : (nodes : List Node) →
    Traced held context.Holds RenderError.fault noFunctions (renderAll host.recorded context nodes)
      (renderAll host context nodes)
  | [] => by
      rw [renderAll, renderAll]
      exact traced_pure (by simp [noFunctions])
  | node :: nodes => by
      rw [renderAll, renderAll]
      refine (traced_render context node).bind fun front => ?_
      exact traced_output ((traced_renderAll context nodes).mono fun _ => .inl) _

theorem traced_renderAlternatives (context : Context) : (alternatives : Alternatives) →
    Traced held context.Holds RenderError.fault noFunctions
      (renderAlternatives host.recorded context alternatives)
      (renderAlternatives host context alternatives)
  | .none => by
      rw [renderAlternatives, renderAlternatives]
      exact traced_pure (by simp [noFunctions])
  | .elseBranch body => by
      rw [renderAlternatives, renderAlternatives]
      exact traced_renderAll context body
  | .elseIf condition body alternatives location => by
      rw [renderAlternatives, renderAlternatives]
      refine (condition.traced_evalAt location).bind fun value => ?_
      split
      · exact (traced_renderAll context body).mono fun _ => .inl
      · exact (traced_renderAlternatives context alternatives).mono fun _ => .inl

end

end Node

/-- Without functions in the context there is no first call, and no answer to bring any function. -/
theorem Traced.silent {Failure α : Type} {faultOf : Failure → Fault} {functionsOf : α → List Function}
    {recorded : Evaluation (State × List Call) Failure α} {plain : Evaluation State Failure α}
    (traced : Traced context.Holds context.Holds faultOf functionsOf recorded plain)
    (free : context.FunctionFree) (state : State) :
    (recorded (state, [])).2.2 = [] ∧
      (∀ failure, (plain state).1 = .error failure →
        ∀ name message, faultOf failure ≠ .refused name message) ∧
      ∀ value, (plain state).1 = .ok value → functionsOf value = [] := by
  obtain ⟨result, later, calls, ran, trace, permitted, settled⟩ :=
    traced state [] permitted_nil fun _ holds => .inl holds
  rw [List.nil_append] at trace permitted settled
  obtain rfl := permitted.eq_nil free.not_holds
  rw [ran, trace]
  refine ⟨rfl, ?_, ?_⟩
  · rintro failure rfl name message refused
    rw [Settled, refused] at settled
    obtain ⟨call, member, _⟩ := settled
    exact List.not_mem_nil member
  · rintro value rfl
    rw [List.eq_nil_iff_forall_not_mem]
    intro function member
    rcases settled function member with holds | ⟨call, called, _⟩
    · exact free.not_holds function holds
    · exact List.not_mem_nil called

theorem Expression.functions_eval {expression : Expression} {state later : State} {value : Value}
    (free : context.FunctionFree) (answered : expression.eval host context state = (.ok value, later)) :
    value.functions = [] := by
  apply (expression.traced_eval.silent free state).2.2
  rw [answered]

namespace Node

theorem functions_item {value item : Value} (plain : value.functions = [])
    (among : item ∈ value.loopItems) : item.functions = [] := by
  rw [List.eq_nil_iff_forall_not_mem]
  intro function member
  have inside := Value.functions_loopItems among member
  rw [plain] at inside
  exact List.not_mem_nil inside

theorem BodiesAsk.exists_item {variableName : String} {body : List Node} {inquiry : Inquiry State} :
    (items : List Value) → (state : State) →
      BodiesAsk host context variableName body state items inquiry →
      ∃ item ∈ items, ∃ later, AllAsk host (context.child variableName item) later body inquiry
  | item :: _, state, .here asks => ⟨item, List.mem_cons_self, state, asks⟩
  | item :: items, _, .behind _ asks => by
      obtain ⟨other, member, later, inside⟩ := BodiesAsk.exists_item items _ asks
      exact ⟨other, List.mem_cons_of_mem item member, later, inside⟩

mutual

theorem Asks.functionFree {inquiry : Inquiry State} : (node : Node) → (context : Context) →
    (state : State) → context.FunctionFree → Asks host context state node inquiry →
    inquiry.scope.FunctionFree
  | .plain _, _, _, _, asks => nomatch asks
  | .output _ _, _, _, free, .output => free
  | .forLoop variableName _ body _, context, state, free, asks => by
      cases asks with
      | iterable => exact free
      | inLoop answered asks =>
          obtain ⟨item, among, later, inside⟩ := asks.exists_item
          have plain := functions_item (Expression.functions_eval free answered) among
          exact AllAsk.functionFree body _ later (free.child variableName plain) inside
  | .ifBranch _ body alternatives _, context, state, free, asks => by
      cases asks with
      | condition => exact free
      | inBranch _ _ asks => exact AllAsk.functionFree body context _ free asks
      | otherwise _ _ asks => exact Ask.functionFree alternatives context _ free asks

theorem AllAsk.functionFree {inquiry : Inquiry State} : (nodes : List Node) →
    (context : Context) → (state : State) → context.FunctionFree →
    AllAsk host context state nodes inquiry → inquiry.scope.FunctionFree
  | [], _, _, _, asks => nomatch asks
  | node :: nodes, context, state, free, asks => by
      cases asks with
      | here asks => exact Asks.functionFree node context state free asks
      | behind _ asks => exact AllAsk.functionFree nodes context _ free asks

theorem Ask.functionFree {inquiry : Inquiry State} : (alternatives : Alternatives) →
    (context : Context) → (state : State) → context.FunctionFree →
    Alternatives.Ask host context state alternatives inquiry → inquiry.scope.FunctionFree
  | .none, _, _, _, asks => nomatch asks
  | .elseBranch body, context, state, free, .elseBranch asks =>
      AllAsk.functionFree body context state free asks
  | .elseIf _ body alternatives _, context, state, free, asks => by
      cases asks with
      | condition => exact free
      | inBranch _ _ asks => exact AllAsk.functionFree body context _ free asks
      | otherwise _ _ asks => exact Ask.functionFree alternatives context _ free asks

end

end Node

open Node in
/-- Every function that an expression calls, or that occurs in its value, occurs in the context or in
what an earlier call has answered, and so does every function that a template calls. Where the context
has no functions in it, nothing is called, no fault is a refusal, and all values are without
functions. -/
theorem calls_permitted_by_context {State : Type} (host : Host State) (context : Context) :
    (∀ expr state, ∃ result later calls,
      Expr.eval host context expr state = (result, later) ∧
      Expr.eval host.recorded context expr (state, []) = (result, later, calls) ∧
      Permitted context.Holds calls ∧
      ∀ value, result = .ok value →
        ∀ function ∈ value.functions, Known context.Holds calls function) ∧
    (∀ template state, ∃ result later calls,
      renderAll host context template state = (result, later) ∧
      renderAll host.recorded context template (state, []) = (result, later, calls) ∧
      Permitted context.Holds calls) ∧
    (context.FunctionFree →
      (∀ expr state,
        (Expr.eval host.recorded context expr (state, [])).2.2 = [] ∧
        (∀ fault, (Expr.eval host context expr state).1 = .error fault →
          ∀ name message, fault ≠ .refused name message) ∧
        ∀ value, (Expr.eval host context expr state).1 = .ok value → value.functions = []) ∧
      ∀ template state,
        (renderAll host.recorded context template (state, [])).2.2 = [] ∧
        (∀ error, (renderAll host context template state).1 = .error error →
          ∀ name message, error.fault ≠ .refused name message) ∧
        ∀ inquiry, AllAsk host context state template inquiry →
          inquiry.scope.FunctionFree ∧
          ∀ value later,
            inquiry.expression.eval host inquiry.scope inquiry.state = (.ok value, later) →
              value.functions = []) := by
  refine ⟨?_, ?_, ?_⟩
  · intro expr state
    obtain ⟨result, later, calls, ran, trace, permitted, settled⟩ :=
      expr.traced_eval state [] permitted_nil fun _ holds => .inl holds
    refine ⟨result, later, calls, ran, trace, permitted, ?_⟩
    rintro value rfl
    exact settled
  · intro template state
    obtain ⟨result, later, calls, ran, trace, permitted, _⟩ :=
      traced_renderAll context template state [] permitted_nil fun _ holds => .inl holds
    exact ⟨result, later, calls, ran, trace, permitted⟩
  · intro free
    constructor
    · intro expr state
      exact expr.traced_eval.silent free state
    · intro template state
      obtain ⟨silent, unrefused, _⟩ := (traced_renderAll context template).silent free state
      refine ⟨silent, unrefused, ?_⟩
      intro inquiry asks
      have inner := AllAsk.functionFree template context state free asks
      exact ⟨inner, fun value later answered => Expression.functions_eval inner answered⟩

/-- A loop over an array of truth values calls nothing. -/
theorem renderAll_loop_calls_nothing :
    let context := Context.empty.set "xs" (.array [.bool true, .bool false])
    context.FunctionFree ∧
      (Node.renderAll Host.none.recorded context
        [.forLoop "x" (.ofSource "xs") [.output (.ofSource "x") default] default] ((), [])).2.2 = [] := by
  intro context
  have free : context.FunctionFree := by
    intro name value found
    rw [Context.get?_set] at found
    by_cases bound : name = "xs"
    · rw [if_pos bound] at found
      obtain rfl := Option.some.inj found
      rfl
    · rw [if_neg bound] at found
      cases found
  exact ⟨free, (((calls_permitted_by_context Host.none context).2.2 free).2 _ ()).1⟩

end Stencil
