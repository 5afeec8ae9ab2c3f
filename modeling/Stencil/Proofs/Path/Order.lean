import Stencil.Path

/-!
Path order. Paths with the same components count as one, and of any two others one comes first, so
that a list that paths are added to in order has each of them once.
-/

namespace Stencil.Path

namespace Component

theorem precedes_trans {first second third : Component} (before : first.precedes second)
    (behind : second.precedes third) : first.precedes third := by
  cases first <;> cases second <;> cases third <;>
    simp [precedes, rank] at before behind ⊢
  exact List.lt_trans before behind

theorem precedes_irrefl (component : Component) : component.precedes component = false := by
  cases component with
  | name text => exact decide_eq_false (List.lt_irrefl text)
  | _ => rfl

theorem precedes_total {left right : Component} (apart : left ≠ right) :
    left.precedes right ∨ right.precedes left := by
  cases left <;> cases right
  case name.name left right =>
    rcases Std.lt_trichotomy left right with before | same | behind
    · exact .inl (decide_eq_true before)
    · exact absurd (congrArg Component.name same) apart
    · exact .inr (decide_eq_true behind)
  all_goals first
    | exact absurd rfl apart
    | exact .inl rfl
    | exact .inr rfl

end Component

theorem componentsPrecede_trans {first second third : List Component}
    (before : componentsPrecede first second) (behind : componentsPrecede second third) :
    componentsPrecede first third := by
  induction first generalizing second third with
  | nil =>
      cases third with
      | nil => cases second <;> simp [componentsPrecede] at behind
      | cons component third => rfl
  | cons left first ih =>
      cases second with
      | nil => simp [componentsPrecede] at before
      | cons middle second =>
          cases third with
          | nil => simp [componentsPrecede] at behind
          | cons right third =>
              simp only [componentsPrecede, Bool.or_eq_true, Bool.and_eq_true, beq_iff_eq] at *
              rcases before with before | ⟨rfl, before⟩
              · rcases behind with behind | ⟨rfl, behind⟩
                · exact .inl (Component.precedes_trans before behind)
                · exact .inl before
              · rcases behind with behind | ⟨rfl, behind⟩
                · exact .inl behind
                · exact .inr ⟨rfl, ih before behind⟩

theorem componentsPrecede_irrefl (components : List Component) :
    componentsPrecede components components = false := by
  induction components with
  | nil => rfl
  | cons component components ih => simp [componentsPrecede, Component.precedes_irrefl, ih]

theorem componentsPrecede_total {lefts rights : List Component} (apart : lefts ≠ rights) :
    componentsPrecede lefts rights ∨ componentsPrecede rights lefts := by
  induction lefts generalizing rights with
  | nil =>
      cases rights with
      | nil => exact absurd rfl apart
      | cons right rights => exact .inl rfl
  | cons left lefts ih =>
      cases rights with
      | nil => exact .inr rfl
      | cons right rights =>
          simp only [componentsPrecede, Bool.or_eq_true, Bool.and_eq_true, beq_iff_eq]
          by_cases same : left = right
          · subst same
            rcases ih fun equal => apart (by rw [equal]) with before | behind
            · exact .inl (.inr ⟨rfl, before⟩)
            · exact .inr (.inr ⟨rfl, behind⟩)
          · rcases Component.precedes_total same with before | behind
            · exact .inl (.inl before)
            · exact .inr (.inl behind)

def Precedes (first second : Path) : Prop := componentsPrecede first.components second.components

theorem Precedes.trans {first second third : Path} (before : first.Precedes second)
    (behind : second.Precedes third) : first.Precedes third := componentsPrecede_trans before behind

theorem mem_insertOrdered {path other : Path} {paths : List Path}
    (member : other ∈ insertOrdered path paths) : other = path ∨ other ∈ paths := by
  induction paths with
  | nil => exact .inl (List.mem_singleton.mp member)
  | cons first rest ih =>
      rw [insertOrdered] at member
      split at member
      · exact .inr member
      · split at member
        · exact List.mem_cons.mp member
        · rcases List.mem_cons.mp member with rfl | behind
          · exact .inr List.mem_cons_self
          · rcases ih behind with same | among
            · exact .inl same
            · exact .inr (List.mem_cons_of_mem _ among)

theorem subset_insertOrdered (path : Path) (paths : List Path) :
    paths ⊆ insertOrdered path paths := by
  induction paths with
  | nil => exact List.nil_subset _
  | cons first rest ih =>
      rw [insertOrdered]
      split
      · exact List.Subset.refl _
      · split
        · exact List.subset_cons_self _ _
        · exact List.cons_subset_cons _ ih

theorem exists_mem_insertOrdered (path : Path) (paths : List Path) :
    ∃ other ∈ insertOrdered path paths, other.components = path.components := by
  induction paths with
  | nil => exact ⟨path, List.mem_singleton_self path, rfl⟩
  | cons first rest ih =>
      rw [insertOrdered]
      split
      · rename_i same
        exact ⟨first, List.mem_cons_self, same.symm⟩
      · split
        · exact ⟨path, List.mem_cons_self, rfl⟩
        · obtain ⟨other, member, same⟩ := ih
          exact ⟨other, List.mem_cons_of_mem _ member, same⟩

theorem pairwise_insertOrdered (path : Path) {paths : List Path}
    (ordered : paths.Pairwise Precedes) : (insertOrdered path paths).Pairwise Precedes := by
  induction paths with
  | nil => exact List.pairwise_singleton _ _
  | cons first rest ih =>
      obtain ⟨below, others⟩ := List.pairwise_cons.mp ordered
      rw [insertOrdered]
      split
      · exact ordered
      · rename_i apart
        split
        · rename_i before
          refine List.pairwise_cons.mpr ⟨fun other member => ?_, ordered⟩
          rcases List.mem_cons.mp member with rfl | behind
          · exact before
          · exact Precedes.trans before (below other behind)
        · rename_i notBefore
          have behind : first.Precedes path := by
            rcases componentsPrecede_total apart with before | behind
            · exact absurd before notBefore
            · exact behind
          refine List.pairwise_cons.mpr ⟨fun other member => ?_, ih others⟩
          rcases mem_insertOrdered member with rfl | among
          · exact behind
          · exact below other among

theorem nodup_components {paths : List Path} (ordered : paths.Pairwise Precedes) :
    (paths.map components).Nodup := by
  refine List.pairwise_map.mpr (ordered.imp fun before same => ?_)
  rw [Precedes, same, componentsPrecede_irrefl] at before
  cases before

structure Added (found before after : List Path) : Prop where
  ordered : after.Pairwise Precedes
  sound : ∀ path ∈ after, path ∈ before ∨ path ∈ found
  kept : before ⊆ after
  complete : ∀ path ∈ found, ∃ other ∈ after, other.components = path.components

theorem added_foldl (found : List Path) {before : List Path} (ordered : before.Pairwise Precedes) :
    Added found before (found.foldl (fun selected path => insertOrdered path selected) before) := by
  induction found generalizing before with
  | nil => exact ⟨ordered, fun _ member => .inl member, fun _ member => member, by simp⟩
  | cons path found ih =>
      have next := ih (pairwise_insertOrdered path ordered)
      refine ⟨next.ordered, fun other member => ?_, fun other member => ?_, fun other member => ?_⟩
      · rcases next.sound other member with among | behind
        · rcases mem_insertOrdered among with rfl | earlier
          · exact .inr List.mem_cons_self
          · exact .inl earlier
        · exact .inr (List.mem_cons_of_mem _ behind)
      · exact next.kept (subset_insertOrdered path before member)
      · rcases List.mem_cons.mp member with rfl | behind
        · obtain ⟨same, there, equal⟩ := exists_mem_insertOrdered other before
          exact ⟨same, next.kept there, equal⟩
        · exact next.complete other behind

end Stencil.Path
