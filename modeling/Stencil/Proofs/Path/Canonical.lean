import Stencil.Proofs.Path.Places

/-!
Normalized paths. A path leads from any directory to another one, name by name. Two paths have the
same normal form exactly if they lead to the same place from every directory that is deep enough,
so the normal form stands for all spellings of a path, and following one path from another may start
from their normal forms.
-/

namespace Stencil.Path

def enter (directory : List (List Char)) : Component → List (List Char)
  | .root => []
  | .here => directory
  | .up => directory.tail
  | .name text => text :: directory

def walk (path : Path) (directory : List (List Char)) : List (List Char) :=
  path.components.foldl enter directory

/-- Both paths are absolute or both are relative, and they lead to the same place from every
directory that is deep enough. -/
def Equivalent (path other : Path) : Prop :=
  path.isAbsolute = other.isAbsolute ∧
    ∃ depth, ∀ directory : List (List Char), (∀ name ∈ directory, Ordinary name) →
      depth ≤ directory.length → path.walk directory = other.walk directory

/-- The place of an absolute or relative path: names below the root, or below the directory so many
levels up. -/
inductive Canonical : Bool → Place → Prop
  | absolute (names : List (List Char)) : (∀ name ∈ names, Ordinary name) →
      Canonical true (names.map .name ++ [.root])
  | relative (ups : Nat) (names : List (List Char)) : (∀ name ∈ names, Ordinary name) →
      Canonical false (names.map .name ++ List.replicate ups .up)

theorem Canonical.push {absolute : Bool} {place : Place} {text : List Char}
    (canonical : Canonical absolute place) (ordinary : Ordinary text) :
    Canonical absolute (.name text :: place) := by
  cases canonical with
  | absolute names each => exact .absolute (text :: names) (List.forall_mem_cons.mpr ⟨ordinary, each⟩)
  | relative ups names each =>
      exact .relative ups (text :: names) (List.forall_mem_cons.mpr ⟨ordinary, each⟩)

theorem Canonical.up {absolute : Bool} {place : Place} (canonical : Canonical absolute place) :
    Canonical absolute (resolveStep place .up) := by
  cases canonical with
  | absolute names each =>
      cases names with
      | nil => exact .absolute [] each
      | cons name names => exact .absolute names (List.forall_mem_cons.mp each).2
  | relative ups names each =>
      cases names with
      | cons name names => exact .relative ups names (List.forall_mem_cons.mp each).2
      | nil =>
          have further : Canonical false (.up :: List.replicate ups .up) :=
            .relative (ups + 1) [] each
          cases ups <;> exact further

theorem Canonical.resolveStep {absolute : Bool} {place : Place} {component : Component}
    (canonical : Canonical absolute place) (plain : component.Plain) :
    Canonical absolute (resolveStep place component) := by
  cases component with
  | root => exact plain.elim
  | here => exact plain.elim
  | up => exact canonical.up
  | name text => exact canonical.push plain

theorem canonical_place (path : Path) : Canonical path.isAbsolute path.place := by
  have along {absolute : Bool} (inner : List Component)
      (plain : ∀ component ∈ inner, component.Plain) (start : Place)
      (canonical : Canonical absolute start) :
      Canonical absolute (inner.foldl resolveStep start) := by
    induction inner generalizing start with
    | nil => exact canonical
    | cons component inner ih =>
        obtain ⟨first, others⟩ := List.forall_mem_cons.mp plain
        exact ih others _ (canonical.resolveStep first)
  have plain : ∀ component ∈ componentsOf (splitSlashes path.chars), component.Plain :=
    fun _ member => plain_of_mem_componentsOf member
  have root : Canonical true [.root] := .absolute [] (by simp)
  have here : Canonical false [] := .relative 0 [] (by simp)
  rw [place, components]
  cases path.isAbsolute with
  | true => exact along _ plain _ root
  | false =>
      cases path.startsHere with
      | true => exact along _ plain _ here
      | false => exact along _ plain _ here

/-! What a path leads to is a matter of its place. -/

structure Follows {State : Type} (act : State → Component → State) : Prop where
  here : ∀ state, act state .here = state
  back : ∀ state text, act (act state (.name text)) .up = state
  top : ∀ state, act (act state .root) .up = act state .root

theorem follows_enter : Follows enter := ⟨fun _ => rfl, fun _ _ => rfl, fun _ => rfl⟩

theorem follows_resolveStep : Follows resolveStep := ⟨fun _ => rfl, fun _ _ => rfl, fun _ => rfl⟩

namespace Follows

variable {State : Type} {act : State → Component → State} (follows : Follows act)

include follows

theorem foldl_step (start : State) (stack : Place) (component : Component) :
    (Path.resolveStep stack component).reverse.foldl act start =
      act (stack.reverse.foldl act start) component := by
  cases component with
  | root => simp [Path.resolveStep]
  | here => rw [follows.here]; rfl
  | name text => simp [Path.resolveStep]
  | up =>
      cases stack with
      | nil => rfl
      | cons last below =>
          cases last <;> simp [Path.resolveStep, follows.back, follows.top]

/-- Components lead where their place leads. -/
theorem foldl_place (start : State) (stack : Place) (components : List Component) :
    (components.foldl Path.resolveStep stack).reverse.foldl act start =
      components.foldl act (stack.reverse.foldl act start) := by
  induction components generalizing stack with
  | nil => rfl
  | cons component components ih =>
      rw [List.foldl_cons, List.foldl_cons, ih, follows.foldl_step]

end Follows

theorem walk_eq_place (path : Path) (directory : List (List Char)) :
    path.walk directory = path.place.reverse.foldl enter directory :=
  (follows_enter.foldl_place directory [] path.components).symm

theorem foldl_enter_names (names directory : List (List Char)) :
    (names.map Component.name).reverse.foldl enter directory = names ++ directory := by
  induction names with
  | nil => rfl
  | cons name names ih => simp [enter, ih]

theorem foldl_enter_ups (ups : Nat) (directory : List (List Char)) :
    (List.replicate ups Component.up).foldl enter directory = directory.drop ups := by
  induction ups generalizing directory with
  | zero => rfl
  | succ ups ih => rw [List.replicate_succ, List.foldl_cons, ih, enter, List.drop_tail]

theorem walk_of_absolute {path : Path} {names : List (List Char)}
    (same : path.place = names.map .name ++ [.root]) (directory : List (List Char)) :
    path.walk directory = names := by
  rw [walk_eq_place, same, List.reverse_append, List.foldl_append, foldl_enter_names]
  simp [enter]

theorem walk_of_relative {path : Path} {ups : Nat} {names : List (List Char)}
    (same : path.place = names.map .name ++ List.replicate ups .up)
    (directory : List (List Char)) : path.walk directory = names ++ directory.drop ups := by
  rw [walk_eq_place, same, List.reverse_append, List.foldl_append, List.reverse_replicate,
    foldl_enter_ups, foldl_enter_names]

/-- There are always more names. -/
theorem exists_ordinary_not_mem (names : List (List Char)) :
    ∃ name, Ordinary name ∧ name ∉ names := by
  refine ⟨'a' :: List.replicate names.flatten.length 'a', ⟨?_, ?_, ?_, ?_⟩, ?_⟩
  · simp
  · simp
  · simp
  · simp
  · intro member
    have short := (List.sublist_flatten_of_mem member).length_le
    rw [List.length_cons, List.length_replicate] at short
    omega

theorem Canonical.root_mem_iff {absolute : Bool} {place : Place}
    (canonical : Canonical absolute place) : .root ∈ place ↔ absolute = true := by
  cases canonical <;> simp

theorem isAbsolute_eq_of_place {path other : Path} (same : path.place = other.place) :
    path.isAbsolute = other.isAbsolute := by
  rw [Bool.eq_iff_iff, ← (canonical_place path).root_mem_iff,
    ← (canonical_place other).root_mem_iff, same]

theorem place_of_absolute {path : Path} (absolute : path.isAbsolute = true) :
    ∃ names : List (List Char), path.place = names.map .name ++ [.root] := by
  have canonical := canonical_place path
  rw [absolute] at canonical
  generalize path.place = place at canonical
  cases canonical with
  | absolute names each => exact ⟨names, rfl⟩

theorem place_of_relative {path : Path} (relative : path.isAbsolute = false) :
    ∃ (ups : Nat) (names : List (List Char)),
      path.place = names.map .name ++ List.replicate ups .up := by
  have canonical := canonical_place path
  rw [relative] at canonical
  generalize path.place = place at canonical
  cases canonical with
  | relative ups names each => exact ⟨ups, names, rfl⟩

theorem filter_ne_replicate {names : List (List Char)} {name : List Char} (free : name ∉ names)
    (count : Nat) : (names ++ List.replicate count name).filter (· ≠ name) = names := by
  have keeps : names.filter (· ≠ name) = names := by
    refine List.filter_eq_self.mpr fun other member => decide_eq_true ?_
    rintro rfl
    exact free member
  rw [List.filter_append, keeps]
  simp

/-- From a directory deep down among names that neither path has, the places that two relative paths
lead to can be told apart. -/
theorem eq_of_walk_eq {ups otherUps depth : Nat} {names otherNames : List (List Char)}
    (meet : ∀ directory : List (List Char), (∀ name ∈ directory, Ordinary name) →
      depth ≤ directory.length → names ++ directory.drop ups = otherNames ++ directory.drop otherUps) :
    names = otherNames ∧ ups = otherUps := by
  obtain ⟨name, ordinary, fresh⟩ := exists_ordinary_not_mem (names ++ otherNames)
  rw [List.mem_append, not_or] at fresh
  have deep : depth ≤ depth + (ups + otherUps) := Nat.le_add_right _ _
  have level := meet (List.replicate (depth + (ups + otherUps)) name)
    (fun other member => List.eq_of_mem_replicate member ▸ ordinary)
    (by rwa [List.length_replicate])
  rw [List.drop_replicate, List.drop_replicate] at level
  have same : names = otherNames := by
    rw [← filter_ne_replicate fresh.1 _, level, filter_ne_replicate fresh.2]
  subst same
  have lengths := congrArg List.length (List.append_cancel_left level)
  rw [List.length_replicate, List.length_replicate] at lengths
  exact ⟨rfl, by omega⟩

theorem place_eq_iff_equivalent {path other : Path} :
    path.place = other.place ↔ path.Equivalent other := by
  constructor
  · intro same
    refine ⟨isAbsolute_eq_of_place same, 0, fun directory _ _ => ?_⟩
    rw [walk_eq_place, walk_eq_place, same]
  · rintro ⟨alike, depth, meet⟩
    cases absolute : path.isAbsolute with
    | true =>
        obtain ⟨names, own⟩ := place_of_absolute absolute
        obtain ⟨otherNames, others⟩ := place_of_absolute (alike ▸ absolute)
        obtain ⟨name, ordinary, _⟩ := exists_ordinary_not_mem []
        have level := meet (List.replicate depth name)
          (fun other member => List.eq_of_mem_replicate member ▸ ordinary) (by simp)
        rw [walk_of_absolute own, walk_of_absolute others] at level
        rw [own, others, level]
    | false =>
        obtain ⟨ups, names, own⟩ := place_of_relative absolute
        obtain ⟨otherUps, otherNames, others⟩ := place_of_relative (alike ▸ absolute)
        simp only [walk_of_relative own, walk_of_relative others] at meet
        obtain ⟨rfl, rfl⟩ := eq_of_walk_eq meet
        rw [own, others]

theorem normalize_eq_iff_place {path other : Path} :
    path.normalize = other.normalize ↔ path.place = other.place := by
  constructor
  · intro same
    have components := congrArg components same
    rw [components_normalize, components_normalize] at components
    exact List.reverse_inj.mp components
  · intro same
    rw [normalize, normalize, resolve, resolve]
    exact congrArg (fun place : Place => ofComponents place.reverse) same

theorem normalize_eq_iff {path other : Path} :
    path.normalize = other.normalize ↔ path.Equivalent other :=
  normalize_eq_iff_place.trans place_eq_iff_equivalent

theorem normalize_normalize (path : Path) : path.normalize.normalize = path.normalize :=
  normalize_eq_iff_place.mpr (place_normalize path)

theorem place_relative {path : Path} (relative : path.isAbsolute = false) :
    path.place = (componentsOf (splitSlashes path.chars)).foldl resolveStep [] := by
  rw [place, components, relative]
  cases path.startsHere <;> rfl

/-- The place of a path that is followed from another one. -/
theorem place_join (base : Path) {path : Path} (relative : path.isAbsolute = false) :
    (base.join path).place = path.place.reverse.foldl resolveStep base.place := by
  rw [place_relative relative, follows_resolveStep.foldl_place]
  obtain ⟨text⟩ := base
  by_cases empty : text = []
  · subst empty
    rw [join, relative]
    exact place_relative relative
  · rw [place, components_join_filled empty relative, List.foldl_append]
    rfl

theorem normalize_join (base path : Path) :
    (base.join path).normalize = (base.normalize.join path.normalize).normalize := by
  have absolute_eq : path.normalize.isAbsolute = path.isAbsolute :=
    isAbsolute_eq_of_place (place_normalize path)
  cases absolute : path.isAbsolute with
  | true =>
      rw [join, join, absolute_eq, absolute]
      exact (normalize_normalize path).symm
  | false =>
      apply normalize_eq_iff_place.mpr
      rw [place_join base absolute, place_join _ (absolute_eq.trans absolute), place_normalize,
        place_normalize]

end Stencil.Path
