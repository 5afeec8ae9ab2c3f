import Stencil.Proofs.Render.Occurrences

/-!
A template with other expressions in some places. If the expressions that rendering comes to are left
alone, the output or the error is the same.
-/

namespace Stencil

variable {State : Type} {host : Host State} {context : Context} {state : State}

open Visit

mutual

def Node.edit (change : Address → Expression → Expression) : Node → Node
  | .plain text => .plain text
  | .output expression location => .output (change [] expression) location
  | .forLoop variableName iterable body location =>
      .forLoop variableName (change [] iterable)
        (Node.editAll (fun address => change (.body :: address)) body) location
  | .ifBranch condition body alternatives location =>
      .ifBranch (change [] condition) (Node.editAll (fun address => change (.body :: address)) body)
        (alternatives.edit fun address => change (.otherwise :: address)) location

def Node.editAll (change : Address → Expression → Expression) : List Node → List Node
  | [] => []
  | node :: nodes =>
      node.edit (fun address => change (.first :: address)) ::
        Node.editAll (fun address => change (.behind :: address)) nodes

def Alternatives.edit (change : Address → Expression → Expression) : Alternatives → Alternatives
  | .none => .none
  | .elseBranch body => .elseBranch (Node.editAll (fun address => change (.body :: address)) body)
  | .elseIf condition body alternatives location =>
      .elseIf (change [] condition) (Node.editAll (fun address => change (.body :: address)) body)
        (alternatives.edit fun address => change (.otherwise :: address)) location

end

def Spares (change : Address → Expression → Expression) (visits : List (Visit State)) : Prop :=
  ∀ visit ∈ visits, change visit.address visit.inquiry.expression = visit.inquiry.expression

variable {change : Address → Expression → Expression} {visits others : List (Visit State)}

theorem spares_append :
    Spares change (visits ++ others) ↔ Spares change visits ∧ Spares change others := by
  simp only [Spares, List.mem_append, or_imp, forall_and]

theorem spares_cons {visit : Visit State} : Spares change (visit :: visits) ↔
    change visit.address visit.inquiry.expression = visit.inquiry.expression ∧
      Spares change visits := by
  simp only [Spares, List.mem_cons, forall_eq_or_imp]

theorem spares_below {turn : Turn} : Spares change (visits.map (below turn)) ↔
    Spares (fun address => change (turn :: address)) visits := by
  simp only [Spares, List.forall_mem_map]
  rfl

namespace Node

open Occurrence

theorem map_edit_below (turn : Turn) (occurrences : List Occurrence) :
    (occurrences.map (Occurrence.edit fun address => change (turn :: address))).map (.below turn) =
      (occurrences.map (Occurrence.below turn)).map (Occurrence.edit change) := by
  rw [List.map_map, List.map_map]
  rfl

mutual

theorem occurrences_edit : (node : Node) → (change : Address → Expression → Expression) →
    (node.edit change).occurrences = node.occurrences.map (Occurrence.edit change)
  | .plain _, _ => rfl
  | .output _ _, _ => rfl
  | .forLoop _ _ body _, change => by
      rw [edit, occurrences, occurrences, occurrencesOfAll_edit, map_edit_below]
      rfl
  | .ifBranch _ body alternatives _, change => by
      rw [edit, occurrences, occurrences, occurrencesOfAll_edit, occurrencesOfAlternatives_edit,
        map_edit_below, map_edit_below, ← List.map_append]
      rfl

theorem occurrencesOfAll_edit : (nodes : List Node) →
    (change : Address → Expression → Expression) →
    occurrencesOfAll (editAll change nodes) = (occurrencesOfAll nodes).map (Occurrence.edit change)
  | [], _ => rfl
  | node :: nodes, change => by
      rw [editAll, occurrencesOfAll, occurrencesOfAll, occurrences_edit, occurrencesOfAll_edit,
        map_edit_below, map_edit_below, ← List.map_append]

theorem occurrencesOfAlternatives_edit : (alternatives : Alternatives) →
    (change : Address → Expression → Expression) →
    (alternatives.edit change).occurrences = alternatives.occurrences.map (Occurrence.edit change)
  | .none, _ => rfl
  | .elseBranch body, change => by
      rw [Alternatives.edit, Alternatives.occurrences, Alternatives.occurrences,
        occurrencesOfAll_edit, map_edit_below]
  | .elseIf _ body alternatives _, change => by
      rw [Alternatives.edit, Alternatives.occurrences, Alternatives.occurrences,
        occurrencesOfAll_edit, occurrencesOfAlternatives_edit, map_edit_below, map_edit_below,
        ← List.map_append]
      rfl

end

end Node

section Steps

variable {Failure α β : Type} {step other : Evaluation State Failure α}
  {next otherNext : α → Evaluation State Failure β} {nextVisits : α → State → List (Visit State)}

/-- Where two computations agree and what follows agrees as long as what is visited there is spared,
they agree as a whole. -/
theorem bind_eq_of_spares (first : other state = step state)
    (spared : Spares change (after step nextVisits state))
    (rest : ∀ value later, Spares change (nextVisits value later) →
      otherNext value later = next value later) :
    (other >>= otherNext) state = (step >>= next) state := by
  rw [Evaluation.bind_run, Evaluation.bind_run, first]
  rcases outcome : step state with ⟨result, later⟩
  cases result with
  | error failure => rfl
  | ok value =>
      rw [after_of_ok outcome] at spared
      exact rest value later spared

theorem map_eq_of_eq (first : other state = step state) (finish : α → β) :
    (do return finish (← other) : Evaluation State Failure β) state =
      (do return finish (← step) : Evaluation State Failure β) state := by
  rw [Evaluation.bind_run, Evaluation.bind_run, first]

end Steps

namespace Node

theorem mapM_eq_of_spares {render other : Value → Evaluation State RenderError String}
    {visits : Value → State → List (Visit State)}
    (each : ∀ item state, Spares change (visits item state) → other item state = render item state)
    (items : List Value) (state : State) (spared : Spares change (ofItems render visits items state)) :
    items.mapM other state = items.mapM render state := by
  induction items generalizing state with
  | nil => rfl
  | cons item items ih =>
      rw [ofItems, spares_append] at spared
      rw [List.mapM_cons, List.mapM_cons]
      refine bind_eq_of_spares (each item state spared.1) spared.2 fun text later rest => ?_
      exact map_eq_of_eq (ih later rest) _

mutual

theorem render_edit : (node : Node) → (context : Context) → (state : State) →
    {change : Address → Expression → Expression} → Spares change (node.visits host context state) →
    render host context (node.edit change) state = render host context node state
  | .plain text, _, _, _, _ => rfl
  | .output expression location, context, state, change, spared => by
      rw [visits, spares_cons] at spared
      rw [edit, spared.1]
  | .forLoop variableName iterable body location, context, state, change, spared => by
      rw [visits, spares_cons] at spared
      rw [edit, render, render, spared.1]
      refine bind_eq_of_spares rfl spared.2 fun value later inside => ?_
      rw [spares_below] at inside
      exact map_eq_of_eq (mapM_eq_of_spares
        (fun item state => renderAll_edit body (context.child variableName item) state) _ _ inside) _
  | .ifBranch condition body alternatives location, context, state, change, spared => by
      rw [visits, spares_cons] at spared
      rw [edit, render, render, spared.1]
      refine bind_eq_of_spares rfl spared.2 fun value later inside => ?_
      by_cases truth : value.isTruthy
      · rw [if_pos truth, spares_below] at inside
        rw [if_pos truth, if_pos truth]
        exact renderAll_edit body context later inside
      · rw [if_neg truth, spares_below] at inside
        rw [if_neg truth, if_neg truth]
        exact renderAlternatives_edit alternatives context later inside

theorem renderAll_edit : (nodes : List Node) → (context : Context) → (state : State) →
    {change : Address → Expression → Expression} →
    Spares change (visitsOfAll host context nodes state) →
    renderAll host context (editAll change nodes) state = renderAll host context nodes state
  | [], _, _, _, _ => rfl
  | node :: nodes, context, state, change, spared => by
      rw [visitsOfAll, spares_append, spares_below] at spared
      rw [editAll, renderAll, renderAll]
      refine bind_eq_of_spares (render_edit node context state spared.1) spared.2
        fun front later rest => ?_
      rw [spares_below] at rest
      exact map_eq_of_eq (renderAll_edit nodes context later rest) _

theorem renderAlternatives_edit : (alternatives : Alternatives) → (context : Context) →
    (state : State) → {change : Address → Expression → Expression} →
    Spares change (alternatives.visits host context state) →
    renderAlternatives host context (alternatives.edit change) state =
      renderAlternatives host context alternatives state
  | .none, _, _, _, _ => rfl
  | .elseBranch body, context, state, change, spared => by
      rw [Alternatives.visits, spares_below] at spared
      rw [Alternatives.edit, renderAlternatives, renderAlternatives]
      exact renderAll_edit body context state spared
  | .elseIf condition body alternatives location, context, state, change, spared => by
      rw [Alternatives.visits, spares_cons] at spared
      rw [Alternatives.edit, renderAlternatives, renderAlternatives, spared.1]
      refine bind_eq_of_spares rfl spared.2 fun value later inside => ?_
      by_cases truth : value.isTruthy
      · rw [if_pos truth, spares_below] at inside
        rw [if_pos truth, if_pos truth]
        exact renderAll_edit body context later inside
      · rw [if_neg truth, spares_below] at inside
        rw [if_neg truth, if_neg truth]
        exact renderAlternatives_edit alternatives context later inside

end

end Node

end Stencil
