import Stencil.Proofs.Text.Occurrence
import Stencil.Text.Blank
import Stencil.Text.Letter

/-!
Trimming. A text keeps all its characters if neither its first nor its last one is blank, and blanks
that are put around a text are taken off again.
-/

namespace Stencil.Text

theorem trimStart_cons_of_blank {character : Char} (blank : isBlank character = true)
    (text : List Char) : trimStart (character :: text) = trimStart text := by
  rw [trimStart, List.dropWhile_cons_of_pos blank, trimStart]

theorem trimStart_eq_self_iff {text : List Char} :
    trimStart text = text ↔ ∀ character ∈ text.head?, isBlank character = false := by
  cases text with
  | nil => simp [trimStart]
  | cons character text =>
      cases blank : isBlank character with
      | false => simp [trimStart, blank]
      | true =>
          have shorter := length_trimStart_le text
          constructor
          · intro same
            have lengths := congrArg List.length same
            rw [trimStart_cons_of_blank blank, List.length_cons] at lengths
            omega
          · intro free
            have absurdity := free character (by simp)
            simp [blank] at absurdity

theorem trimEnd_eq_reverse (text : List Char) :
    trimEnd text = (trimStart text.reverse).reverse := rfl

theorem length_trimEnd_le (text : List Char) : (trimEnd text).length ≤ text.length := by
  have shorter := length_trimStart_le text.reverse
  simpa [trimEnd_eq_reverse] using shorter

theorem trimEnd_eq_self_iff {text : List Char} :
    trimEnd text = text ↔ ∀ character ∈ text.getLast?, isBlank character = false := by
  rw [trimEnd_eq_reverse, List.reverse_eq_iff, trimStart_eq_self_iff, List.head?_reverse]

theorem trim_eq_self_iff {text : List Char} :
    trim text = text ↔
      (∀ character ∈ text.head?, isBlank character = false) ∧
        ∀ character ∈ text.getLast?, isBlank character = false := by
  rw [← trimStart_eq_self_iff, ← trimEnd_eq_self_iff]
  constructor
  · intro same
    have first := length_trimStart_le text
    have second := length_trimEnd_le (trimStart text)
    have lengths := congrArg List.length same
    rw [trim] at lengths
    have start : trimStart text = text :=
      (List.dropWhile_sublist isBlank).eq_of_length (by rw [trimStart] at *; omega)
    rw [trim, start] at same
    exact ⟨start, same⟩
  · rintro ⟨start, finish⟩
    rw [trim, start, finish]

theorem trim_cons_blank {character : Char} (blank : isBlank character = true)
    (text : List Char) : trim (character :: text) = trim text := by
  rw [trim, trimStart_cons_of_blank blank, trim]

theorem trimEnd_append_blank {character : Char} (blank : isBlank character = true)
    (text : List Char) : trimEnd (text ++ [character]) = trimEnd text := by
  rw [trimEnd_eq_reverse, List.reverse_append, List.reverse_singleton, List.singleton_append,
    trimStart_cons_of_blank blank, trimEnd_eq_reverse]

theorem trim_append_blank {character : Char} (blank : isBlank character = true)
    (text : List Char) : trim (text ++ [character]) = trim text := by
  rw [trim, trimStart, List.dropWhile_append]
  split
  · rename_i empty
    rw [List.isEmpty_iff] at empty
    rw [trim, trimStart, empty, List.dropWhile_cons_of_pos blank]
    rfl
  · rw [trimEnd_append_blank blank]
    rfl

theorem isBlank_space : isBlank ' ' = true := by decide

theorem trim_spaced (text : List Char) : trim (' ' :: (text ++ [' '])) = trim text := by
  rw [trim_cons_blank isBlank_space, trim_append_blank isBlank_space]

theorem exists_range_of_inRanges {code : Nat} {ranges : List (Nat × Nat)}
    (inside : inRanges code ranges = true) :
    ∃ range ∈ ranges, range.1 ≤ code ∧ code ≤ range.2 := by
  induction ranges with
  | nil => simp [inRanges] at inside
  | cons range ranges ih =>
      rw [inRanges] at inside
      split at inside
      · simp at inside
      · split at inside
        · exact ⟨range, List.mem_cons_self .., by omega, by omega⟩
        · obtain ⟨other, member, bounds⟩ := ih inside
          exact ⟨other, List.mem_cons_of_mem _ member, bounds⟩

def codesIn (ranges : List (Nat × Nat)) : List Nat :=
  ranges.flatMap fun range => List.range' range.1 (range.2 + 1 - range.1)

theorem mem_codesIn_of_inRanges {code : Nat} {ranges : List (Nat × Nat)}
    (inside : inRanges code ranges = true) : code ∈ codesIn ranges := by
  obtain ⟨range, member, low, high⟩ := exists_range_of_inRanges inside
  exact List.mem_flatMap.mpr ⟨range, member, List.mem_range'_1.mpr (by omega)⟩

theorem isBlank_of_isNamePart {character : Char} (part : isNamePart character = true) :
    isBlank character = false := by
  -- There are few blanks, so that each of them can be looked up among the name parts.
  have apart : ∀ code ∈ codesIn blankRanges, isNamePart (Char.ofNat code) = false := by
    decide +kernel
  cases blank : isBlank character with
  | false => rfl
  | true =>
      have other := apart _ (mem_codesIn_of_inRanges blank)
      rwa [Char.ofNat_toNat, part] at other

theorem isNamePart_of_mem_name {name : List Char} (named : isName name = true) :
    ∀ character ∈ name, isNamePart character = true := by
  cases name with
  | nil => simp
  | cons first rest =>
      simp only [isName, Bool.and_eq_true, List.all_eq_true] at named
      intro character member
      rcases List.mem_cons.mp member with rfl | later
      · exact isNamePart_of_isNameStart named.1
      · exact named.2 character later

theorem trim_name {name : List Char} (named : isName name = true) : trim name = name := by
  have solid (character : Char) (member : character ∈ name) : isBlank character = false :=
    isBlank_of_isNamePart (isNamePart_of_mem_name named character member)
  refine trim_eq_self_iff.mpr ⟨?_, ?_⟩
  · intro character first
    exact solid character (List.mem_of_head? first)
  · intro character last
    exact solid character (List.mem_of_getLast? last)

theorem not_mem_of_isName {name : List Char} {character : Char} (named : isName name = true)
    (other : isNamePart character = false) : character ∉ name := by
  intro member
  simp [isNamePart_of_mem_name named character member] at other

end Stencil.Text
