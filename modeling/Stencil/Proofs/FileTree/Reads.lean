import Stencil.Proofs.FileTree.Growth

/-!
Reading in a tree that has grown. A file is read as before as long as nothing was written to its
place: one that was there already under any path, and one that may be missing under its normalized
path, which leads through no directory that was made later.
-/

namespace Stencil.FileTree

variable {tree after : FileTree} {written : List (Place × String)} {path : Path}

def Rooted (tree : FileTree) : Prop :=
  ∀ component above, tree.entry? (component :: above) ≠ none →
    tree.entry? above = some .directory

theorem Rooted.directory_above (rooted : tree.Rooted) {front place : Place}
    (there : tree.entry? (front ++ place) ≠ none) (further : front ≠ []) :
    tree.entry? place = some .directory := by
  induction front with
  | nil => exact absurd rfl further
  | cons component front ih =>
      have above := rooted component (front ++ place) there
      by_cases last : front = []
      · subst last
        exact above
      · exact ih (by simp [above]) last

theorem settled_suffix {front place : Place} (settled : Path.Settled (front ++ place)) :
    Path.Settled place := by
  induction front with
  | nil => exact settled
  | cons component front ih => exact ih settled.2

theorem Rooted.follow_settled (rooted : tree.Rooted) {components : List Path.Component} {start : Place}
    (settled : Path.Settled (components.reverse ++ start))
    (there : tree.entry? (components.reverse ++ start) ≠ none) :
    tree.follow components start = some (components.reverse ++ start) := by
  induction components generalizing start with
  | nil => rfl
  | cons component components ih =>
      have whole : (component :: components).reverse ++ start =
          components.reverse ++ component :: start := by simp
      have beyond : tree.entry? ((components.reverse ++ [component]) ++ start) ≠ none := by
        simpa using there
      have base : tree.entry? start = some .directory := rooted.directory_above beyond (by simp)
      rw [whole] at settled there
      rw [follow, base, whole]
      simp only
      rw [(settled_suffix settled).1]
      exact ih settled there

theorem follow_grown {components : List Path.Component} {place reached : Place}
    (directories : ∀ place, tree.entry? place = some .directory →
      after.entry? place = some .directory)
    (followed : tree.follow components place = some reached) :
    after.follow components place = some reached := by
  induction components generalizing place with
  | nil => exact followed
  | cons component components ih =>
      rw [follow] at followed ⊢
      split at followed
      · rename_i base
        rw [directories place base]
        exact ih followed
      · cases followed

namespace Grown

theorem entry?_of_some (grown : Grown tree written after) {place : Place}
    (there : tree.entry? place ≠ none) (free : written.lookup place = none) :
    after.entry? place = tree.entry? place := by
  rcases grown.others place free with same | ⟨missing, _⟩
  · exact same
  · exact absurd missing there

theorem find?_of_follow (grown : Grown tree written after)
    (followed : tree.follow path.components [] = some path.place)
    (there : tree.entry? path.place ≠ none) (free : written.lookup path.place = none) :
    after.find? path = tree.find? path := by
  refine find?_congr ?_ fun place reached => ?_
  · rw [followed, follow_grown grown.directories followed]
  · rw [followed] at reached
    obtain rfl := Option.some.inj reached
    exact grown.entry?_of_some there free

theorem read?_of_file (grown : Grown tree written after) (file : tree.kind? path = some .file)
    (free : written.lookup path.place = none) : after.read? path = tree.read? path := by
  have same : after.find? path = tree.find? path := by
    cases found : tree.find? path with
    | none => simp [kind?, found] at file
    | some pair =>
        obtain ⟨place, entry⟩ := pair
        obtain ⟨rfl, followed, there⟩ := find?_eq_some found
        rw [← found]
        exact grown.find?_of_follow followed (by simp [there]) free
  rw [read?, read?, same]

theorem read?_normalize (grown : Grown tree written after) (rooted : tree.Rooted)
    (free : written.lookup path.place = none) :
    after.read? path.normalize = tree.read? path.normalize := by
  have own := Path.place_normalize path
  by_cases missing : tree.entry? path.place = none
  · have before : tree.read? path.normalize = none := by
      rw [read?]
      cases found : tree.find? path.normalize with
      | none => rfl
      | some pair =>
          obtain ⟨place, entry⟩ := pair
          obtain ⟨rfl, _, there⟩ := find?_eq_some found
          rw [own, missing] at there
          cases there
    rw [before, read?]
    cases found : after.find? path.normalize with
    | none => rfl
    | some pair =>
        obtain ⟨place, entry⟩ := pair
        obtain ⟨rfl, _, there⟩ := find?_eq_some found
        rw [own] at there
        rcases grown.others path.place free with same | ⟨_, made⟩
        · rw [same, missing] at there
          cases there
        · rw [made] at there
          obtain rfl := Option.some.inj there
          rfl
  · have settled : Path.Settled (path.normalize.components.reverse ++ []) := by
      rw [Path.components_normalize, List.reverse_reverse, List.append_nil]
      exact Path.settled_place path
    have whole : path.normalize.components.reverse ++ [] = path.normalize.place := by
      rw [Path.components_normalize, List.reverse_reverse, List.append_nil, own]
    have followed : tree.follow path.normalize.components [] = some path.normalize.place := by
      rw [← whole]
      exact rooted.follow_settled settled (by rwa [whole, own])
    rw [read?, read?, grown.find?_of_follow followed (by rwa [own]) (by rwa [own])]

end Grown

end Stencil.FileTree
