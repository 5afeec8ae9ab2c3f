import Stencil.Path

/-!
The parts of a path. Splitting at slashes undoes joining with slashes as long as no part has a slash
of its own, and the components of a path that is followed from another one come behind the
components of that one.
-/

namespace Stencil.Path

theorem splitSlashes_ne_nil (text : List Char) : splitSlashes text ≠ [] := by
  fun_cases splitSlashes text <;> simp

theorem splitSlashes_cons {character : Char} {text part : List Char} {parts : List (List Char)}
    (solid : character ≠ '/') (split : splitSlashes text = part :: parts) :
    splitSlashes (character :: text) = (character :: part) :: parts := by
  rw [splitSlashes, split]
  exact solid

theorem splitSlashes_append_slash (front back : List Char) :
    splitSlashes (front ++ '/' :: back) = splitSlashes front ++ splitSlashes back := by
  induction front with
  | nil => rfl
  | cons character front ih =>
      by_cases slash : character = '/'
      · subst slash
        rw [List.cons_append, splitSlashes, ih, splitSlashes, List.cons_append]
      · obtain ⟨part, parts, split⟩ := List.exists_cons_of_ne_nil (splitSlashes_ne_nil front)
        rw [split, List.cons_append] at ih
        rw [List.cons_append, splitSlashes_cons slash ih, splitSlashes_cons slash split]
        rfl

theorem splitSlashes_of_not_mem {text : List Char} (solid : '/' ∉ text) :
    splitSlashes text = [text] := by
  induction text with
  | nil => rfl
  | cons character text ih =>
      simp only [List.mem_cons, not_or] at solid
      exact splitSlashes_cons (Ne.symm solid.1) (ih solid.2)

theorem not_mem_of_mem_splitSlashes {text part : List Char} (member : part ∈ splitSlashes text) :
    '/' ∉ part := by
  induction text generalizing part with
  | nil =>
      obtain rfl := List.mem_singleton.mp member
      simp
  | cons character text ih =>
      by_cases slash : character = '/'
      · subst slash
        rw [splitSlashes, List.mem_cons] at member
        rcases member with rfl | later
        · simp
        · exact ih later
      · obtain ⟨first, parts, split⟩ := List.exists_cons_of_ne_nil (splitSlashes_ne_nil text)
        rw [splitSlashes_cons slash split, List.mem_cons] at member
        rcases member with rfl | later
        · have inner : '/' ∉ first := ih (by simp [split])
          simp [inner, Ne.symm slash]
        · exact ih (by simp [split, later])

theorem joinSlashes_cons (part : List Char) {parts : List (List Char)} (more : parts ≠ []) :
    joinSlashes (part :: parts) = part ++ '/' :: joinSlashes parts := by
  cases parts with
  | nil => exact absurd rfl more
  | cons next parts => rfl

theorem joinSlashes_concat {parts : List (List Char)} (last : List Char) (some : parts ≠ []) :
    joinSlashes (parts ++ [last]) = joinSlashes parts ++ '/' :: last := by
  induction parts with
  | nil => exact absurd rfl some
  | cons part parts ih =>
      by_cases single : parts = []
      · rw [single]
        rfl
      · rw [List.cons_append, joinSlashes_cons part (by simp), ih single,
          joinSlashes_cons part single, List.append_assoc]
        rfl

theorem splitSlashes_joinSlashes {parts : List (List Char)} (some : parts ≠ [])
    (solid : ∀ part ∈ parts, '/' ∉ part) : splitSlashes (joinSlashes parts) = parts := by
  induction parts with
  | nil => exact absurd rfl some
  | cons part parts ih =>
      have first := splitSlashes_of_not_mem (solid part List.mem_cons_self)
      by_cases last : parts = []
      · rw [last, joinSlashes, first]
      · have later := ih last fun other member => solid other (List.mem_cons_of_mem part member)
        rw [joinSlashes_cons part last, splitSlashes_append_slash, first, later]
        rfl

structure Ordinary (text : List Char) : Prop where
  filled : text ≠ []
  solid : '/' ∉ text
  notHere : text ≠ ['.']
  notUp : text ≠ ['.', '.']

theorem componentsOf_append (parts others : List (List Char)) :
    componentsOf (parts ++ others) = componentsOf parts ++ componentsOf others := by
  rw [componentsOf, List.filter_append, List.map_append]
  rfl

theorem componentsOf_singleton (part : List Char) :
    componentsOf [part] =
      if isEmptyPart part then [] else if part = ['.', '.'] then [.up] else [.name part] := by
  rw [componentsOf]
  cases counts : isEmptyPart part with
  | false =>
      rw [List.filter_cons_of_pos (by simp [counts])]
      by_cases up : part = ['.', '.']
      · simp [up]
      · simp [up]
  | true => simp [counts]

theorem componentsOf_ordinary {parts : List (List Char)} (ordinary : ∀ part ∈ parts, Ordinary part) :
    componentsOf parts = parts.map .name := by
  induction parts with
  | nil => rfl
  | cons part parts ih =>
      have first := ordinary part List.mem_cons_self
      have later := ih fun other member => ordinary other (List.mem_cons_of_mem part member)
      have counts : isEmptyPart part = false := by
        simp [isEmptyPart, first.filled, first.notHere]
      rw [componentsOf] at later ⊢
      rw [List.filter_cons_of_pos (by simp [counts]), List.map_cons, later, if_neg first.notUp,
        List.map_cons]

theorem ordinary_of_mem_componentsOf {path : Path} {text : List Char}
    (member : .name text ∈ componentsOf (splitSlashes path.chars)) : Ordinary text := by
  obtain ⟨part, kept, same⟩ := List.mem_map.mp member
  obtain ⟨among, counts⟩ := List.mem_filter.mp kept
  have full : part ≠ [] ∧ part ≠ ['.'] := by simpa [isEmptyPart] using counts
  by_cases up : part = ['.', '.']
  · rw [if_pos up] at same
    cases same
  · rw [if_neg up] at same
    cases same
    exact ⟨full.1, not_mem_of_mem_splitSlashes among, full.2, up⟩

theorem ordinary_of_mem_components {path : Path} {text : List Char}
    (member : .name text ∈ path.components) : Ordinary text := by
  rw [components] at member
  split at member
  · exact ordinary_of_mem_componentsOf (by simpa using member)
  · split at member
    · exact ordinary_of_mem_componentsOf (by simpa using member)
    · exact ordinary_of_mem_componentsOf member

theorem components_of_relative {path : Path} (relative : path.isAbsolute = false)
    (bare : path.startsHere = false) : path.components = componentsOf (splitSlashes path.chars) := by
  rw [components, relative, bare]
  rfl

theorem isAbsolute_append {front : List Char} (back : List Char) (some : front ≠ []) :
    isAbsolute ⟨front ++ back⟩ = isAbsolute ⟨front⟩ := by
  cases front with
  | nil => exact absurd rfl some
  | cons character front => rfl

theorem startsHere_append_slash (front back : List Char) :
    startsHere ⟨front ++ '/' :: back⟩ = startsHere ⟨front⟩ := by
  obtain ⟨part, parts, split⟩ := List.exists_cons_of_ne_nil (splitSlashes_ne_nil front)
  rw [startsHere, startsHere, splitSlashes_append_slash, split]
  rfl

theorem componentsOf_slash (front : List Char) :
    componentsOf (splitSlashes (front ++ ['/'])) = componentsOf (splitSlashes front) := by
  have nothing : componentsOf (splitSlashes []) = [] := rfl
  rw [splitSlashes_append_slash, componentsOf_append, nothing, List.append_nil]

theorem components_append_slash (front back : List Char) :
    components ⟨front ++ '/' :: back⟩ =
      components ⟨front ++ ['/']⟩ ++ componentsOf (splitSlashes back) := by
  have whole : front ++ '/' :: back = (front ++ ['/']) ++ back := by simp
  have absolute : isAbsolute ⟨front ++ '/' :: back⟩ = isAbsolute ⟨front ++ ['/']⟩ := by
    rw [whole, isAbsolute_append back (by simp)]
  rw [components, components, absolute, startsHere_append_slash, startsHere_append_slash,
    componentsOf_slash, splitSlashes_append_slash, componentsOf_append]
  split
  · rfl
  · split <;> rfl

theorem components_slash {front : List Char} (some : front ≠ []) :
    components ⟨front ++ ['/']⟩ = components ⟨front⟩ := by
  rw [components, components, isAbsolute_append _ some, startsHere_append_slash, componentsOf_slash]

/-- The parts of a relative path come behind the components of the path that it is followed from. A
leading `.` counts only where nothing stands before it. -/
theorem components_join_filled {text : List Char} {path : Path} (filled : text ≠ [])
    (relative : path.isAbsolute = false) :
    (join ⟨text⟩ path).components =
      components ⟨text⟩ ++ componentsOf (splitSlashes path.chars) := by
  have whole := List.dropLast_concat_getLast filled
  have final : text.getLast? = some (text.getLast filled) := List.getLast?_eq_some_getLast filled
  by_cases slash : text.getLast filled = '/'
  · rw [slash] at whole final
    have joined : join ⟨text⟩ path = ⟨text.dropLast ++ '/' :: path.chars⟩ := by
      have text_eq : text ++ path.chars = text.dropLast ++ '/' :: path.chars := by
        calc
          text ++ path.chars = (text.dropLast ++ ['/']) ++ path.chars := by rw [whole]
          _ = text.dropLast ++ '/' :: path.chars := by simp
      rw [join, relative, final, ← text_eq]
      rfl
    rw [joined, components_append_slash, whole]
  · have joined : join ⟨text⟩ path = ⟨text ++ '/' :: path.chars⟩ := by
      simp [join, relative, final]
    rw [joined, components_append_slash, components_slash filled]

/-- The components of a relative path come behind those of the path that it is followed from. -/
theorem components_join (base : Path) {path : Path} (relative : path.isAbsolute = false)
    (bare : path.startsHere = false) :
    (base.join path).components = base.components ++ path.components := by
  obtain ⟨text⟩ := base
  by_cases empty : text = []
  · subst empty
    rw [join, relative]
    rfl
  · rw [components_join_filled empty relative, components_of_relative relative bare]

end Stencil.Path
