import Stencil.Proofs.Path.Places

/-!
How a tree of files grows when texts are written and the directories above them are made. Directories
stay, and so does every file that nothing is written to; a place that is written to holds what was
written to it last.
-/

namespace Stencil

namespace FileTree

theorem entry?_of_fixed {tree : FileTree} {place : Place} (fixed : isFixed place = true) :
    tree.entry? place = some .directory := by
  rw [FileTree.entry?, if_pos fixed]

theorem lookup_cons_of_ne {α : Type} {place other : Place} (apart : other ≠ place) (entry : α)
    (entries : List (Place × α)) :
    ((place, entry) :: entries).lookup other = entries.lookup other := by
  have passed : (other == place) = false := by simpa using apart
  rw [List.lookup_cons, passed]

theorem lookup_filter_ne {place other : Place} (apart : other ≠ place)
    (entries : List (Place × FileEntry)) :
    (entries.filter fun stored => stored.1 != place).lookup other = entries.lookup other := by
  induction entries with
  | nil => rfl
  | cons stored entries ih =>
      obtain ⟨own, entry⟩ := stored
      by_cases same : own = place
      · rw [List.filter_cons_of_neg (by simp [same]), ih, lookup_cons_of_ne (same ▸ apart)]
      · rw [List.filter_cons_of_pos (by simp [same]), List.lookup_cons, List.lookup_cons, ih]

theorem entry?_put_self {tree : FileTree} {place : Place} (entry : FileEntry)
    (loose : isFixed place = false) : FileTree.entry? (tree.put place entry) place = some entry := by
  simp [FileTree.entry?, put, loose]

theorem entry?_put_of_ne {tree : FileTree} {place other : Place} (entry : FileEntry)
    (apart : other ≠ place) : FileTree.entry? (tree.put place entry) other = tree.entry? other := by
  rw [FileTree.entry?, FileTree.entry?, put, lookup_cons_of_ne apart, lookup_filter_ne apart]

theorem follow_eq_some {tree : FileTree} {components : List Path.Component} {place reached : Place}
    (followed : tree.follow components place = some reached) :
    reached = components.foldl Path.resolveStep place := by
  induction components generalizing place with
  | nil => exact (Option.some.inj followed).symm
  | cons component components ih =>
      rw [follow] at followed
      split at followed
      · exact ih followed
      · cases followed

theorem find?_eq_some {tree : FileTree} {path : Path} {place : Place} {entry : FileEntry}
    (found : tree.find? path = some (place, entry)) :
    place = path.place ∧ tree.follow path.components [] = some place ∧
      tree.entry? place = some entry := by
  rw [find?] at found
  split at found
  · cases found
  · cases followed : tree.follow path.components [] with
    | none => simp [followed] at found
    | some reached =>
        simp only [followed] at found
        cases stored : tree.entry? reached with
        | none => simp [stored] at found
        | some other =>
            have same : (reached, other) = (place, entry) := by
              cases other with
              | directory => simpa [stored] using found
              | text content => simp_all
              | binary => simp_all
            obtain ⟨rfl, rfl⟩ := Prod.mk.inj same
            exact ⟨follow_eq_some followed, rfl, stored⟩

theorem find?_congr {tree other : FileTree} {path : Path}
    (way : other.follow path.components [] = tree.follow path.components [])
    (last : ∀ place, tree.follow path.components [] = some place →
      other.entry? place = tree.entry? place) : other.find? path = tree.find? path := by
  rw [find?, find?, way]
  cases followed : tree.follow path.components [] with
  | none => rfl
  | some place =>
      simp only
      rw [last place followed]

/-- What became of a tree, given what was written to which place, last first. -/
structure Grown (tree : FileTree) (written : List (Place × String)) (after : FileTree) : Prop where
  texts : ∀ place body, written.lookup place = some body → after.entry? place = some (.text body)
  others : ∀ place, written.lookup place = none →
    after.entry? place = tree.entry? place ∨
      tree.entry? place = none ∧ after.entry? place = some .directory
  directories : ∀ place, tree.entry? place = some .directory →
    after.entry? place = some .directory

namespace Grown

variable {tree after grown : FileTree} {written : List (Place × String)}

theorem self (tree : FileTree) : Grown tree [] tree where
  texts _ _ found := by cases found
  others _ _ := .inl rfl
  directories _ there := there

theorem make {place : Place} (before : Grown tree written after)
    (free : after.entry? place = none) : Grown tree written (after.put place .directory) := by
  have loose : isFixed place = false := by
    cases fixed : isFixed place with
    | false => rfl
    | true => simp [entry?_of_fixed fixed] at free
  have untouched : written.lookup place = none := by
    cases found : written.lookup place with
    | none => rfl
    | some body => simp [before.texts place body found] at free
  have missing : tree.entry? place = none := by
    rcases before.others place untouched with same | ⟨missing, _⟩
    · rw [← same, free]
    · exact missing
  constructor
  · intro other body found
    have apart : other ≠ place := by
      rintro rfl
      rw [untouched] at found
      cases found
    rw [entry?_put_of_ne _ apart]
    exact before.texts other body found
  · intro other free
    by_cases same : other = place
    · subst same
      exact .inr ⟨missing, entry?_put_self _ loose⟩
    · rw [entry?_put_of_ne _ same]
      exact before.others other free
  · intro other there
    by_cases same : other = place
    · subst same
      exact entry?_put_self _ loose
    · rw [entry?_put_of_ne _ same]
      exact before.directories other there

theorem createAlong {components : List Path.Component} {place reached : Place}
    (before : Grown tree written after)
    (made : after.createAlong components place = some (grown, reached)) :
    Grown tree written grown := by
  induction components generalizing after place with
  | nil =>
      obtain ⟨rfl, _⟩ := Prod.mk.inj (Option.some.inj made)
      exact before
  | cons component components ih =>
      rw [FileTree.createAlong] at made
      split at made
      · exact ih before made
      · rename_i free
        exact ih (before.make free) made
      · cases made

theorem create {path : Path} (before : Grown tree written after)
    (made : after.create? path = some grown) : Grown tree written grown := by
  obtain ⟨⟨final, reached⟩, along, rfl⟩ := Option.map_eq_some_iff.mp made
  exact before.createAlong along

end Grown

theorem write?_eq_some {tree after : FileTree} {path : Path} {text : String}
    (wrote : tree.write? path text = some after) :
    after = tree.put path.place (.text text) ∧ isFixed path.place = false ∧
      tree.entry? path.place ≠ some .directory := by
  rw [write?] at wrote
  split at wrote
  · cases wrote
  · cases last : path.components.reverse with
    | nil => simp [last] at wrote
    | cons component above =>
        cases component with
        | name name =>
            simp only [last] at wrote
            cases followed : tree.follow above.reverse [] with
            | none => simp [followed] at wrote
            | some place =>
                simp only [followed] at wrote
                have whole : path.components = above.reverse ++ [.name name] := by
                  rw [← List.reverse_reverse path.components, last, List.reverse_cons]
                have own : path.place = .name name :: place := by
                  rw [Path.place, whole, List.foldl_append, ← follow_eq_some followed]
                  rfl
                have loose : isFixed (.name name :: place) = false := by simp [isFixed]
                rw [own]
                split at wrote
                · cases wrote
                · rename_i free
                  exact ⟨(Option.some.inj wrote).symm, loose, fun there => free there⟩
                · cases wrote
        | root => simp [last] at wrote
        | here => simp [last] at wrote
        | up => simp [last] at wrote

theorem Grown.write {tree after grown : FileTree} {written : List (Place × String)} {path : Path}
    {text : String} (before : Grown tree written after)
    (wrote : after.write? path text = some grown) :
    Grown tree ((path.place, text) :: written) grown := by
  obtain ⟨rfl, loose, free⟩ := write?_eq_some wrote
  constructor
  · intro place body found
    by_cases same : place = path.place
    · subst same
      rw [List.lookup_cons_self] at found
      obtain rfl := Option.some.inj found
      exact entry?_put_self _ loose
    · rw [lookup_cons_of_ne same] at found
      rw [entry?_put_of_ne _ same]
      exact before.texts place body found
  · intro place found
    have apart : place ≠ path.place := by
      rintro rfl
      rw [List.lookup_cons_self] at found
      cases found
    rw [lookup_cons_of_ne apart] at found
    rw [entry?_put_of_ne _ apart]
    exact before.others place found
  · intro place there
    have still := before.directories place there
    have apart : place ≠ path.place := by
      rintro rfl
      exact free still
    rw [entry?_put_of_ne _ apart]
    exact still

end FileTree

end Stencil
