import Stencil.Proofs.Expr.Names
import Stencil.Proofs.Render.Choice
import Stencil.Proofs.Render.Edits
import Stencil.Proofs.Render.Executions

/-!
Expressions that rendering does not come to do not matter: whatever stands in their places, the output
or the error is the same. Of the conditions of a branch those up to the first that holds are visited,
and one body; of the body of a loop without items nothing is; and nothing after an error.
-/

namespace Stencil

variable {State : Type} {host : Host State} {context : Context} {state : State}

open Visit Node

/-- A visit that fails is the last one, and its fault is the outcome. -/
theorem Closes.last_of_fails {front behind : List (Visit State)} {visit : Visit State} {fault : Fault}
    {outcome : Except RenderError String} (closes : Closes host (front ++ visit :: behind) outcome)
    (failed : (visit.inquiry.expression.eval host visit.inquiry.scope visit.inquiry.state).1 =
      .error fault) :
    behind = [] ∧ outcome = .error ⟨fault, visit.inquiry.location⟩ := by
  have unanswered : ¬ visit.inquiry.Answers host := by
    rintro ⟨value, answered⟩
    rw [failed] at answered
    cases answered
  cases outcome with
  | ok text => exact absurd (closes visit (by simp)) unanswered
  | error error =>
      obtain ⟨answered, last, same, all, located, caused⟩ := closes
      cases behind with
      | nil =>
          obtain ⟨-, rfl⟩ := List.append_singleton_inj.mp same
          rw [failed] at caused
          obtain ⟨cause, location⟩ := error
          obtain rfl := Except.error.inj caused
          obtain rfl : location = visit.inquiry.location := located
          exact ⟨rfl, rfl⟩
      | cons next behind =>
          have split : front ++ visit :: next :: behind =
              (front ++ visit :: (next :: behind).dropLast) ++
                [(next :: behind).getLast (List.cons_ne_nil _ _)] := by
            rw [List.append_assoc, List.cons_append, List.dropLast_append_getLast]
          rw [split] at same
          obtain ⟨rfl, -⟩ := List.append_singleton_inj.mp same
          exact absurd (all visit (by simp)) unanswered

theorem Value.loopItems_eq_nil {value : Value} (empty : ∀ items, value = .array items → items = []) :
    value.loopItems = [] := by
  cases value with
  | array items => exact empty items rfl
  | _ => rfl

theorem Node.loop_over_nothing {variableName : String} {iterable : Expression} {body : List Node}
    {location : Location} {value : Value} {later : State}
    (answered : iterable.eval host context state = (.ok value, later))
    (empty : ∀ items, value = .array items → items = []) :
    render host context (.forLoop variableName iterable body location) state = (.ok "", later) ∧
      ((Node.forLoop variableName iterable body location).visits host context state).map
        Visit.address = [[]] := by
  have found : iterable.evalAt host context location state = (.ok value, later) :=
    Expression.evalAt_of_eval answered
  have nothing := Value.loopItems_eq_nil empty
  constructor
  · rw [render, Evaluation.bind_of_ok found, nothing]
    rfl
  · rw [visits, after_of_ok found, nothing]
    rfl

/-- The visits are what rendering comes to, each at the address of its expression, and no two
expressions have the same address. Replacing expressions that are not visited leaves the outcome as
it is. What is visited in a node is visited by one of its executions: those of a branch visit its
conditions up to the first that holds, and one body; that of a loop over nothing visits nothing in
the body. Nothing is visited after a fault. -/
theorem unvisited_expressions_do_not_matter (host : Host State) (context : Context) (state : State)
    (template : Template) :
    (∀ inquiry, AllAsk host context state template inquiry ↔
      ∃ visit ∈ visitsOfAll host context template state, visit.inquiry = inquiry) ∧
    ((occurrencesOfAll template).map Occurrence.address).Nodup ∧
    (∀ visit ∈ visitsOfAll host context template state,
      visit.occurrence ∈ occurrencesOfAll template) ∧
    (∀ change : Address → Expression → Expression,
      occurrencesOfAll (editAll change template) =
        (occurrencesOfAll template).map (Occurrence.edit change) ∧
      ((∀ occurrence ∈ occurrencesOfAll template,
          occurrence.address ∈ (visitsOfAll host context template state).map Visit.address →
          change occurrence.address occurrence.expression = occurrence.expression) →
        renderAll host context (editAll change template) state =
          renderAll host context template state)) ∧
    (∀ place inner, findIn? template place = some inner →
      Executes host inner place (visitsOfAll host context template state)) ∧
    (∀ condition body alternatives location scope start,
      Choice host scope start (⟨condition, location, body⟩ :: alternatives.branches)
        alternatives.lastBody
        (render host scope (.ifBranch condition body alternatives location) start)
        (((Node.ifBranch condition body alternatives location).visits host scope start).map
          Visit.address)) ∧
    (∀ variableName iterable body location scope start value later,
      iterable.eval host scope start = (.ok value, later) →
      (∀ items, value = .array items → items = []) →
      render host scope (.forLoop variableName iterable body location) start = (.ok "", later) ∧
        ((Node.forLoop variableName iterable body location).visits host scope start).map
          Visit.address = [[]]) ∧
    (∀ front visit behind fault,
      visitsOfAll host context template state = front ++ visit :: behind →
      (visit.inquiry.expression.eval host visit.inquiry.scope visit.inquiry.state).1 = .error fault →
      behind = [] ∧
        (renderAll host context template state).1 = .error ⟨fault, visit.inquiry.location⟩) := by
  refine ⟨?_, distinct_occurrencesOfAll template, among_visitsOfAll template context state, ?_, ?_, ?_,
    ?_, ?_⟩
  · intro inquiry
    exact allAsk_iff template context state
  · intro change
    refine ⟨occurrencesOfAll_edit template change, fun spared => ?_⟩
    refine renderAll_edit template context state fun visit member => ?_
    exact spared visit.occurrence (among_visitsOfAll template context state visit member)
      (List.mem_map_of_mem member)
  · intro place inner found
    exact executes_visitsOfAll template place context state found
  · intro condition body alternatives location scope start
    exact Node.choice condition body alternatives location start
  · intro variableName iterable body location scope start value later answered empty
    exact loop_over_nothing answered empty
  · intro front visit behind fault split failed
    have closes : Closes host (visitsOfAll host context template state)
        (renderAll host context template state).1 := closes_renderAll template context state
    rw [split] at closes
    exact closes.last_of_fails failed

/-- The body of a loop over null, an `else if` behind a condition that holds, and what follows a member
of null are replaced by a text that cannot be read. -/
theorem unvisited_expressions_of_loop_branch_and_fault :
    let branch : Node := .ifBranch (.ofSource "true") []
      (.elseIf (.ofSource "x") [] .none default) default
    let loop : Node := .forLoop "x" (.ofSource "null") [.output (.ofSource "x") default] default
    let template : Template :=
      [loop, branch, .output (.ofSource "null.x") default, .output (.ofSource "x") default]
    let unvisited : List Address := [[.first, .body, .first], [.behind, .first, .otherwise],
      [.behind, .behind, .behind, .first]]
    let change (address : Address) (expression : Expression) : Expression :=
      if address ∈ unvisited then .ofSource "(" else expression
    renderAll Host.none {} (editAll change template) () = renderAll Host.none {} template () ∧
      render Host.none {} loop () = (.ok "", ()) ∧
      (renderAll Host.none {} template ()).1 = .error ⟨.mistyped (.memberOfNull "x"), default⟩ := by
  intro branch loop template unvisited change
  have ofNull : Expr.compile "null" = .ok .null :=
    Expr.compile_keyword (by decide) (by decide : _ = some .nullWord)
  have ofTrue : Expr.compile "true" = .ok (.bool true) :=
    Expr.compile_keyword (by decide) (by decide : _ = some .trueWord)
  have ofMember : Expr.compile "null.x" = .ok (.attribute .null "x") :=
    Expr.compile_of_words
      (by decide +kernel : _ = some [.keyword .nullWord, .symbol .dot, .name "x"]) (by cbv)
  obtain ⟨_, _, _, edits, _, _, loops, faults⟩ :=
    unvisited_expressions_do_not_matter Host.none {} () template
  have visited : visitsOfAll Host.none {} template () =
      [⟨[.first], .ofSource "null", default, {}, ()⟩,
        ⟨[.behind, .first], .ofSource "true", default, {}, ()⟩] ++
      ⟨[.behind, .behind, .first], .ofSource "null.x", default, {}, ()⟩ :: [] := by
    simp only [template, loop, branch, Expression.ofSource_eq ofNull, Expression.ofSource_eq ofTrue,
      Expression.ofSource_eq ofMember]
    rfl
  refine ⟨(edits change).2 ?_, ?_, ?_⟩
  · intro occurrence _ reached
    have spared : ∀ address ∈ [[.first], [.behind, .first], [.behind, .behind, .first]],
        address ∉ unvisited := by decide
    rw [visited] at reached
    exact if_neg (spared occurrence.address reached)
  · have answered : Expression.eval Host.none {} (.ofSource "null") () = (.ok .null, ()) := by
      rw [Expression.ofSource_eq ofNull]
      rfl
    exact (loops "x" (.ofSource "null") _ default {} () .null () answered (by simp)).1
  · have failed : (Expression.eval Host.none {} (.ofSource "null.x") ()).1 =
        .error (.mistyped (.memberOfNull "x")) := by
      rw [Expression.ofSource_eq ofMember]
      rfl
    exact (faults _ _ [] (.mistyped (.memberOfNull "x")) visited failed).2

end Stencil
