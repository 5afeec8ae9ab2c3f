import Mathlib.Data.List.Infix
import Stencil.Proofs.Render.Visits

/-!
A node in a loop is executed once for each item. Every visit in it belongs to one of the executions,
the visits of which follow each other.
-/

namespace Stencil

variable {State Failure α : Type} {host : Host State}

open Visit

mutual

def Node.find? : Node → Address → Option Node
  | node, [] => some node
  | .forLoop _ _ body _, .body :: address => Node.findIn? body address
  | .ifBranch _ body _ _, .body :: address => Node.findIn? body address
  | .ifBranch _ _ alternatives _, .otherwise :: address => alternatives.find? address
  | _, _ => none

def Node.findIn? : List Node → Address → Option Node
  | node :: _, .first :: address => node.find? address
  | _ :: nodes, .behind :: address => Node.findIn? nodes address
  | _, _ => none

def Alternatives.find? : Alternatives → Address → Option Node
  | .elseBranch body, .body :: address => Node.findIn? body address
  | .elseIf _ body _ _, .body :: address => Node.findIn? body address
  | .elseIf _ _ alternatives _, .otherwise :: address => alternatives.find? address
  | _, _ => none

end

def Visit.under (place : Address) (visit : Visit State) : Visit State :=
  { visit with address := place ++ visit.address }

/-- Every visit at or below the place belongs to an execution of the node. -/
def Executes (host : Host State) (inner : Node) (place : Address) (visits : List (Visit State)) :
    Prop :=
  ∀ visit ∈ visits, place <+: visit.address → ∃ scope start,
    visit ∈ (inner.visits host scope start).map (under place) ∧
      (inner.visits host scope start).map (under place) <:+: visits

variable {inner : Node} {place : Address} {visits others : List (Visit State)}

theorem executes_of_elsewhere (elsewhere : ∀ visit ∈ visits, ¬ place <+: visit.address) :
    Executes host inner place visits :=
  fun visit member within => absurd within (elsewhere visit member)

theorem executes_self (node : Node) (context : Context) (state : State) :
    Executes host node [] (node.visits host context state) := by
  have same : (node.visits host context state).map (under []) = node.visits host context state :=
    List.map_id _
  intro visit member _
  refine ⟨context, state, ?_, ?_⟩
  · rwa [same]
  · rw [same]

namespace Executes

theorem append (first : Executes host inner place visits) (second : Executes host inner place others) :
    Executes host inner place (visits ++ others) := by
  intro visit member within
  rcases List.mem_append.mp member with earlier | among
  · obtain ⟨scope, start, own, run⟩ := first visit earlier within
    exact ⟨scope, start, own, run.trans (List.prefix_append visits others).isInfix⟩
  · obtain ⟨scope, start, own, run⟩ := second visit among within
    exact ⟨scope, start, own, run.trans (List.suffix_append visits others).isInfix⟩

theorem below (turn : Turn) (executes : Executes host inner place visits) :
    Executes host inner (turn :: place) (visits.map (below turn)) := by
  intro visit member within
  obtain ⟨own, among, rfl⟩ := List.mem_map.mp member
  obtain ⟨scope, start, found, run⟩ := executes own among (List.cons_prefix_cons.mp within).2
  have deeper : (under (turn :: place) : Visit State → Visit State) =
      Visit.below turn ∘ under place := rfl
  refine ⟨scope, start, ?_, ?_⟩
  · rw [deeper, ← List.map_map]
    exact List.mem_map_of_mem found
  · rw [deeper, ← List.map_map]
    exact run.map _

theorem after {step : Evaluation State Failure α} {next : α → State → List (Visit State)}
    {state : State} (others : ∀ value later, Executes host inner place (next value later)) :
    Executes host inner place (after step next state) := by
  rw [Visit.after]
  split
  · exact others _ _
  · exact executes_of_elsewhere (by simp)

end Executes

theorem executes_elsewhere {turn other : Turn} (apart : turn ≠ other) (visits : List (Visit State)) :
    Executes host inner (turn :: place) (visits.map (below other)) := by
  refine executes_of_elsewhere fun visit member within => ?_
  obtain ⟨own, _, rfl⟩ := List.mem_map.mp member
  exact apart (List.cons_prefix_cons.mp within).1

theorem executes_cons {turn : Turn} {inquiry : Inquiry State}
    (executes : Executes host inner (turn :: place) visits) :
    Executes host inner (turn :: place) (⟨[], inquiry⟩ :: visits) := by
  have own : Executes host inner (turn :: place) [⟨[], inquiry⟩] :=
    executes_of_elsewhere (by simp)
  exact own.append executes

namespace Node

theorem executes_items {render : Value → Evaluation State RenderError String}
    {visits : Value → State → List (Visit State)}
    (each : ∀ item state, Executes host inner place (visits item state))
    (items : List Value) (state : State) :
    Executes host inner place (ofItems render visits items state) := by
  induction items generalizing state with
  | nil => exact executes_of_elsewhere (by simp [ofItems])
  | cons item items ih =>
      rw [ofItems]
      exact (each item state).append (.after fun _ later => ih later)

theorem executes_choice {condition : Expression} {location : Location} {context : Context}
    {state : State} {body otherwise : State → List (Visit State)}
    (first : ∀ state, Executes host inner place ((body state).map (Visit.below .body)))
    (second : ∀ state, Executes host inner place ((otherwise state).map (Visit.below .otherwise))) :
    Executes host inner place (Visit.after (condition.evalAt host context location)
      (fun value later => if value.isTruthy then (body later).map (Visit.below .body)
        else (otherwise later).map (Visit.below .otherwise)) state) := by
  refine .after fun value later => ?_
  split
  · exact first later
  · exact second later

mutual

theorem executes_visits : (node : Node) → (place : Address) → (context : Context) →
    (state : State) → node.find? place = some inner →
    Executes host inner place (node.visits host context state)
  | node, [], context, state, found => by
      rw [find?] at found
      obtain rfl := Option.some.inj found
      exact executes_self node context state
  | .forLoop variableName iterable body location, .body :: place, context, state, found => by
      rw [find?] at found
      rw [visits]
      refine executes_cons (.after fun value later => ?_)
      exact (executes_items (fun item state =>
        executes_visitsOfAll body place (context.child variableName item) state found) _ _).below _
  | .ifBranch condition body alternatives location, .body :: place, context, state, found => by
      rw [find?] at found
      rw [visits]
      exact executes_cons (executes_choice
        (fun state => (executes_visitsOfAll body place context state found).below _)
        (fun _ => executes_elsewhere (by decide) _))
  | .ifBranch condition body alternatives location, .otherwise :: place, context, state, found => by
      rw [find?] at found
      rw [visits]
      exact executes_cons (executes_choice
        (fun _ => executes_elsewhere (by decide) _)
        (fun state => (executes_visits_alternatives alternatives place context state found).below _))
  | .plain _, turn :: _, _, _, found => by cases turn <;> cases found
  | .output _ _, turn :: _, _, _, found => by cases turn <;> cases found
  | .forLoop _ _ _ _, .first :: _, _, _, found
  | .forLoop _ _ _ _, .behind :: _, _, _, found
  | .forLoop _ _ _ _, .otherwise :: _, _, _, found => nomatch found
  | .ifBranch _ _ _ _, .first :: _, _, _, found
  | .ifBranch _ _ _ _, .behind :: _, _, _, found => nomatch found

theorem executes_visitsOfAll : (nodes : List Node) → (place : Address) → (context : Context) →
    (state : State) → findIn? nodes place = some inner →
    Executes host inner place (visitsOfAll host context nodes state)
  | node :: nodes, .first :: place, context, state, found => by
      rw [findIn?] at found
      rw [visitsOfAll]
      exact ((executes_visits node place context state found).below _).append
        (.after fun _ _ => executes_elsewhere (by decide) _)
  | node :: nodes, .behind :: place, context, state, found => by
      rw [findIn?] at found
      rw [visitsOfAll]
      exact (executes_elsewhere (by decide) _).append
        (.after fun _ later => (executes_visitsOfAll nodes place context later found).below _)
  | [], _, _, _, found => nomatch found
  | _ :: _, [], _, _, found
  | _ :: _, .body :: _, _, _, found
  | _ :: _, .otherwise :: _, _, _, found => nomatch found

theorem executes_visits_alternatives : (alternatives : Alternatives) → (place : Address) →
    (context : Context) → (state : State) → alternatives.find? place = some inner →
    Executes host inner place (alternatives.visits host context state)
  | .elseBranch body, .body :: place, context, state, found => by
      rw [Alternatives.find?] at found
      rw [Alternatives.visits]
      exact (executes_visitsOfAll body place context state found).below _
  | .elseIf condition body alternatives location, .body :: place, context, state, found => by
      rw [Alternatives.find?] at found
      rw [Alternatives.visits]
      exact executes_cons (executes_choice
        (fun state => (executes_visitsOfAll body place context state found).below _)
        (fun _ => executes_elsewhere (by decide) _))
  | .elseIf condition body alternatives location, .otherwise :: place, context, state, found => by
      rw [Alternatives.find?] at found
      rw [Alternatives.visits]
      exact executes_cons (executes_choice
        (fun _ => executes_elsewhere (by decide) _)
        (fun state => (executes_visits_alternatives alternatives place context state found).below _))
  | .none, _, _, _, found => nomatch found
  | .elseBranch _, [], _, _, found
  | .elseBranch _, .first :: _, _, _, found
  | .elseBranch _, .behind :: _, _, _, found
  | .elseBranch _, .otherwise :: _, _, _, found => nomatch found
  | .elseIf _ _ _ _, [], _, _, found
  | .elseIf _ _ _ _, .first :: _, _, _, found
  | .elseIf _ _ _ _, .behind :: _, _, _, found => nomatch found

end

end Node

end Stencil
