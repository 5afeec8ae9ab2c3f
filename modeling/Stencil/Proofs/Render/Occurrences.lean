import Mathlib.Data.List.Nodup
import Stencil.Proofs.Render.Visits

/-!
The expressions of a template with their addresses, of which no two are the same. Whatever rendering
visits is one of them.
-/

namespace Stencil

structure Occurrence where
  address : Address
  expression : Expression

namespace Occurrence

def below (turn : Turn) (occurrence : Occurrence) : Occurrence :=
  { occurrence with address := turn :: occurrence.address }

def edit (change : Address → Expression → Expression) (occurrence : Occurrence) : Occurrence :=
  { occurrence with expression := change occurrence.address occurrence.expression }

def Distinct (occurrences : List Occurrence) : Prop := (occurrences.map address).Nodup

end Occurrence

mutual

def Node.occurrences : Node → List Occurrence
  | .plain _ => []
  | .output expression _ => [⟨[], expression⟩]
  | .forLoop _ iterable body _ => ⟨[], iterable⟩ :: (Node.occurrencesOfAll body).map (.below .body)
  | .ifBranch condition body alternatives _ =>
      ⟨[], condition⟩ :: ((Node.occurrencesOfAll body).map (.below .body) ++
        alternatives.occurrences.map (.below .otherwise))

def Node.occurrencesOfAll : List Node → List Occurrence
  | [] => []
  | node :: nodes =>
      node.occurrences.map (.below .first) ++ (Node.occurrencesOfAll nodes).map (.below .behind)

def Alternatives.occurrences : Alternatives → List Occurrence
  | .none => []
  | .elseBranch body => (Node.occurrencesOfAll body).map (.below .body)
  | .elseIf condition body alternatives _ =>
      ⟨[], condition⟩ :: ((Node.occurrencesOfAll body).map (.below .body) ++
        alternatives.occurrences.map (.below .otherwise))

end

namespace Occurrence

variable {occurrences others : List Occurrence}

theorem Distinct.below (turn : Turn) (distinct : Distinct occurrences) :
    Distinct (occurrences.map (.below turn)) := by
  have deeper : address ∘ Occurrence.below turn = (turn :: ·) ∘ address := rfl
  rw [Distinct, List.map_map, deeper, ← List.map_map]
  exact List.Nodup.map List.cons_injective distinct

theorem Distinct.append {turn other : Turn} (apart : turn ≠ other)
    (distinct : Distinct occurrences) (distinctOthers : Distinct others) :
    Distinct (occurrences.map (.below turn) ++ others.map (.below other)) := by
  rw [Distinct, List.map_append]
  refine List.Nodup.append (distinct.below turn) (distinctOthers.below other) fun place left right => ?_
  obtain ⟨_, among, rfl⟩ := List.mem_map.mp left
  obtain ⟨_, behind, same⟩ := List.mem_map.mp right
  obtain ⟨own, _, rfl⟩ := List.mem_map.mp among
  obtain ⟨later, _, rfl⟩ := List.mem_map.mp behind
  exact apart (List.cons.inj same).1.symm

theorem Distinct.cons {expression : Expression} (distinct : Distinct occurrences)
    (inside : ∀ occurrence ∈ occurrences, occurrence.address ≠ []) :
    Distinct (⟨[], expression⟩ :: occurrences) := by
  refine List.nodup_cons.mpr ⟨fun member => ?_, distinct⟩
  obtain ⟨occurrence, among, same⟩ := List.mem_map.mp member
  exact inside occurrence among same

theorem below_ne (turn : Turn) (occurrences : List Occurrence) :
    ∀ occurrence ∈ occurrences.map (Occurrence.below turn), occurrence.address ≠ [] := by
  intro occurrence member
  obtain ⟨own, _, rfl⟩ := List.mem_map.mp member
  exact List.cons_ne_nil _ _

theorem below_append_ne (turn other : Turn) (occurrences others : List Occurrence) :
    ∀ occurrence ∈ occurrences.map (Occurrence.below turn) ++ others.map (Occurrence.below other),
      occurrence.address ≠ [] := by
  intro occurrence member
  rcases List.mem_append.mp member with left | right
  · exact below_ne turn occurrences occurrence left
  · exact below_ne other others occurrence right

end Occurrence

namespace Node

open Occurrence

mutual

theorem distinct_occurrences : (node : Node) → Distinct node.occurrences
  | .plain _ => List.nodup_nil
  | .output _ _ => Distinct.cons List.nodup_nil (by simp)
  | .forLoop _ _ body _ => by
      rw [occurrences]
      exact ((distinct_occurrencesOfAll body).below _).cons (below_ne _ _)
  | .ifBranch _ body alternatives _ => by
      rw [occurrences]
      exact (Distinct.append (by decide) (distinct_occurrencesOfAll body)
        (distinct_occurrencesOfAlternatives alternatives)).cons (below_append_ne _ _ _ _)

/-- Each expression of a template has an address of its own. -/
theorem distinct_occurrencesOfAll : (nodes : List Node) → Distinct (occurrencesOfAll nodes)
  | [] => List.nodup_nil
  | node :: nodes => by
      rw [occurrencesOfAll]
      exact .append (by decide) (distinct_occurrences node) (distinct_occurrencesOfAll nodes)

theorem distinct_occurrencesOfAlternatives : (alternatives : Alternatives) →
    Distinct alternatives.occurrences
  | .none => List.nodup_nil
  | .elseBranch body => (distinct_occurrencesOfAll body).below _
  | .elseIf _ body alternatives _ => by
      rw [Alternatives.occurrences]
      exact (Distinct.append (by decide) (distinct_occurrencesOfAll body)
        (distinct_occurrencesOfAlternatives alternatives)).cons (below_append_ne _ _ _ _)

end

end Node

def Visit.occurrence {State : Type} (visit : Visit State) : Occurrence :=
  ⟨visit.address, visit.inquiry.expression⟩

section Visits

variable {State Failure α : Type} {host : Host State} {context : Context} {state : State}

open Visit

def Among (occurrences : List Occurrence) (visits : List (Visit State)) : Prop :=
  ∀ visit ∈ visits, visit.occurrence ∈ occurrences

variable {occurrences others : List Occurrence} {visits later : List (Visit State)}

theorem among_nil : Among occurrences ([] : List (Visit State)) :=
  fun _ member => absurd member List.not_mem_nil

namespace Among

theorem mono (among : Among occurrences visits) (subset : occurrences ⊆ others) :
    Among others visits :=
  fun visit member => subset (among visit member)

theorem append (first : Among occurrences visits) (second : Among occurrences later) :
    Among occurrences (visits ++ later) := by
  intro visit member
  rcases List.mem_append.mp member with earlier | behind
  · exact first visit earlier
  · exact second visit behind

theorem below (turn : Turn) (among : Among occurrences visits) :
    Among (occurrences.map (.below turn)) (visits.map (Visit.below turn)) := by
  intro visit member
  obtain ⟨own, inside, rfl⟩ := List.mem_map.mp member
  exact List.mem_map_of_mem (among own inside)

theorem after {step : Evaluation State Failure α} {next : α → State → List (Visit State)}
    (others : ∀ value later, Among occurrences (next value later)) :
    Among occurrences (after step next state) := by
  rw [Visit.after]
  split
  · exact others _ _
  · exact among_nil

theorem cons {inquiry : Inquiry State} (among : Among occurrences visits) :
    Among (⟨[], inquiry.expression⟩ :: occurrences) (⟨[], inquiry⟩ :: visits) := by
  intro visit member
  rcases List.mem_cons.mp member with rfl | behind
  · exact List.mem_cons_self
  · exact List.mem_cons_of_mem _ (among visit behind)

end Among

namespace Node

theorem among_items {render : Value → Evaluation State RenderError String}
    {visits : Value → State → List (Visit State)}
    (each : ∀ item state, Among occurrences (visits item state))
    (items : List Value) (state : State) : Among occurrences (ofItems render visits items state) := by
  induction items generalizing state with
  | nil => exact among_nil
  | cons item items ih => exact (each item state).append (.after fun _ later => ih later)

theorem among_choice {condition : Expression} {location : Location}
    {body otherwise : State → List (Visit State)}
    (first : ∀ state, Among occurrences (body state))
    (second : ∀ state, Among others (otherwise state)) :
    Among (occurrences.map (.below .body) ++ others.map (.below .otherwise))
      (Visit.after (condition.evalAt host context location)
        (fun value later => if value.isTruthy then (body later).map (Visit.below .body)
          else (otherwise later).map (Visit.below .otherwise)) state) := by
  refine .after fun value later => ?_
  split
  · exact ((first later).below _).mono (List.subset_append_left _ _)
  · exact ((second later).below _).mono (List.subset_append_right _ _)

mutual

theorem among_visits : (node : Node) → (context : Context) → (state : State) →
    Among node.occurrences (node.visits host context state)
  | .plain _, _, _ => among_nil
  | .output _ _, _, _ => Among.cons among_nil
  | .forLoop variableName iterable body location, context, state => by
      rw [visits, occurrences]
      refine Among.cons (.after fun value later => ?_)
      exact (among_items (fun item state =>
        among_visitsOfAll body (context.child variableName item) state) _ _).below _
  | .ifBranch condition body alternatives location, context, state => by
      rw [visits, occurrences]
      exact Among.cons (among_choice (among_visitsOfAll body context)
        (among_visitsOfAlternatives alternatives context))

theorem among_visitsOfAll : (nodes : List Node) → (context : Context) → (state : State) →
    Among (occurrencesOfAll nodes) (visitsOfAll host context nodes state)
  | [], _, _ => among_nil
  | node :: nodes, context, state => by
      rw [visitsOfAll, occurrencesOfAll]
      refine .append ?_ (.after fun _ later => ?_)
      · exact ((among_visits node context state).below _).mono (List.subset_append_left _ _)
      · exact ((among_visitsOfAll nodes context later).below _).mono (List.subset_append_right _ _)

theorem among_visitsOfAlternatives : (alternatives : Alternatives) → (context : Context) →
    (state : State) → Among alternatives.occurrences (alternatives.visits host context state)
  | .none, _, _ => among_nil
  | .elseBranch body, context, state => by
      rw [Alternatives.visits, Alternatives.occurrences]
      exact (among_visitsOfAll body context state).below _
  | .elseIf condition body alternatives location, context, state => by
      rw [Alternatives.visits, Alternatives.occurrences]
      exact Among.cons (among_choice (among_visitsOfAll body context)
        (among_visitsOfAlternatives alternatives context))

end

end Node

end Visits

end Stencil
