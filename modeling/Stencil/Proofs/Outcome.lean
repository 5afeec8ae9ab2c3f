/-!
What the outcome of fallible steps in a row says about the steps.
-/

namespace Stencil.Outcome

variable {Failure α β : Type}

@[simp] theorem ok_bind (value : α) (next : α → Except Failure β) :
    (Except.ok value >>= next) = next value := rfl

@[simp] theorem error_bind (failure : Failure) (next : α → Except Failure β) :
    (Except.error failure >>= next) = .error failure := rfl

@[simp] theorem map_ok (change : α → β) (value : α) :
    (Except.ok value : Except Failure α).map change = .ok (change value) := rfl

@[simp] theorem map_error (change : α → β) (failure : Failure) :
    (Except.error failure : Except Failure α).map change = .error failure := rfl

theorem eq_ok_of_toOption {step : Except Failure α} {value : α}
    (found : step.toOption = some value) : step = .ok value := by
  cases step with
  | error failure => cases found
  | ok other => exact congrArg Except.ok (Option.some.inj found)

theorem bind_eq_ok_iff {step : Except Failure α} {next : α → Except Failure β} {result : β} :
    (step >>= next) = .ok result ↔ ∃ value, step = .ok value ∧ next value = .ok result := by
  cases step with
  | error failure => simp
  | ok value => simp

theorem map_eq_ok_iff {step : Except Failure α} {change : α → β} {result : β} :
    step.map change = .ok result ↔ ∃ value, step = .ok value ∧ change value = result := by
  cases step with
  | error failure => simp
  | ok value => simp

theorem bind_eq_error_iff {step : Except Failure α} {next : α → Except Failure β}
    {failure : Failure} :
    (step >>= next) = .error failure ↔
      step = .error failure ∨ ∃ value, step = .ok value ∧ next value = .error failure := by
  cases step with
  | error other => simp
  | ok value => simp

theorem bind_pure_eq_error_iff {step : Except Failure α} {change : α → β} {failure : Failure} :
    (do return change (← step)) = .error failure ↔ step = .error failure := by
  cases step with
  | error other => rw [error_bind, Except.error.injEq, Except.error.injEq]
  | ok value => constructor <;> nofun

theorem map_eq_error_iff {step : Except Failure α} {change : α → β} {failure : Failure} :
    step.map change = .error failure ↔ step = .error failure := by
  cases step with
  | error other => simp
  | ok value => simp

section Lists

variable {Item : Type} {items : List Item} {step other : Item → Except Failure α}

theorem mapM_eq_ok_iff {results : List α} :
    items.mapM step = .ok results ↔ items.map step = results.map .ok := by
  induction items generalizing results with
  | nil => cases results <;> simp [pure, Except.pure]
  | cons item items ih =>
      rw [List.mapM_cons, bind_eq_ok_iff, List.map_cons]
      constructor
      · rintro ⟨first, made, rest⟩
        obtain ⟨later, madeLater, joined⟩ := bind_eq_ok_iff.mp rest
        obtain rfl := Except.ok.inj joined
        rw [made, ih.mp madeLater, List.map_cons]
      · intro made
        cases results with
        | nil => cases made
        | cons first later =>
            rw [List.map_cons, List.cons.injEq] at made
            exact ⟨first, made.1, bind_eq_ok_iff.mpr ⟨later, ih.mpr made.2, rfl⟩⟩

theorem mapM_congr (same : ∀ item ∈ items, step item = other item) :
    items.mapM step = items.mapM other := by
  induction items with
  | nil => rfl
  | cons item items ih =>
      rw [List.mapM_cons, List.mapM_cons, same item List.mem_cons_self,
        ih fun later member => same later (List.mem_cons_of_mem item member)]

theorem map_mapM (change : α → β) :
    (items.mapM step).map (List.map change) = items.mapM fun item => (step item).map change := by
  induction items with
  | nil => rfl
  | cons item items ih =>
      rw [List.mapM_cons, List.mapM_cons, ← ih]
      cases step item with
      | error failure => rfl
      | ok first => cases items.mapM step <;> rfl

/-- What is made of each item on its own is made again of the items at other places. -/
theorem exists_mapM_of_places {results : List α} {others : List Item} {places : List Nat}
    (made : items.mapM step = .ok results) (taken : others.map some = places.map (items[·]?)) :
    ∃ otherResults, others.mapM step = .ok otherResults ∧
      otherResults.map some = places.map (results[·]?) := by
  rw [mapM_eq_ok_iff] at made
  induction places generalizing others with
  | nil =>
      obtain rfl := List.map_eq_nil_iff.mp taken
      exact ⟨[], rfl, rfl⟩
  | cons place places ih =>
      cases others with
      | nil => cases taken
      | cons item others =>
          rw [List.map_cons, List.map_cons, List.cons.injEq] at taken
          obtain ⟨later, madeLater, placed⟩ := ih taken.2
          have same : (items.map step)[place]? = (results.map .ok)[place]? := by rw [made]
          rw [List.getElem?_map, List.getElem?_map, ← taken.1, Option.map_some] at same
          obtain ⟨result, found, stepped⟩ := Option.map_eq_some_iff.mp same.symm
          rw [mapM_eq_ok_iff] at madeLater
          refine ⟨result :: later, ?_, ?_⟩
          · rw [mapM_eq_ok_iff, List.map_cons, List.map_cons, stepped, madeLater]
          · rw [List.map_cons, List.map_cons, found, placed]

end Lists

end Stencil.Outcome
