import Stencil.Text.Search

/-!
Where one text occurs in another. The search for a text finds its first occurrence: it begins
nowhere inside what stands before it.
-/

namespace Stencil.Text

def Avoids (needle text rest : List Char) : Prop :=
  ∀ offset < text.length, ¬ needle <+: (text ++ rest).drop offset

@[simp] theorem avoids_nil (needle rest : List Char) : Avoids needle [] rest := by
  simp [Avoids]

theorem avoids_cons {needle text rest : List Char} {character : Char} :
    Avoids needle (character :: text) rest ↔
      ¬ needle <+: character :: (text ++ rest) ∧ Avoids needle text rest := by
  constructor
  · intro avoids
    refine ⟨avoids 0 (by simp), ?_⟩
    intro offset below
    exact avoids (offset + 1) (by simpa using below)
  · rintro ⟨first, later⟩ offset below
    cases offset with
    | zero => exact first
    | succ offset => exact later offset (by simpa using below)

theorem avoids_append {needle front text rest : List Char} :
    Avoids needle (front ++ text) rest ↔
      Avoids needle front (text ++ rest) ∧ Avoids needle text rest := by
  induction front with
  | nil => simp
  | cons character front ih =>
      simp only [List.cons_append, avoids_cons, ih, List.append_assoc, and_assoc]

theorem dropStart?_eq_none_iff {start text : List Char} :
    dropStart? start text = none ↔ ¬ start <+: text := by
  constructor
  · rintro missing ⟨after, rfl⟩
    simp [dropStart?_append] at missing
  · intro absent
    cases found : dropStart? start text with
    | none => rfl
    | some after => exact absurd ⟨after, (eq_append_of_dropStart? found).symm⟩ absent

theorem startsWith_iff {start text : List Char} :
    startsWith start text = true ↔ start <+: text := by
  rw [← Decidable.not_iff_not, ← dropStart?_eq_none_iff, startsWith]
  simp

theorem cutAt?_of_prefix {needle : List Char} (after : List Char) :
    cutAt? needle (needle ++ after) = some ([], after) := by
  have start := dropStart?_append needle after
  cases whole : needle ++ after with
  | nil =>
      rw [whole] at start
      simp [cutAt?, start]
  | cons character text =>
      rw [whole] at start
      simp [cutAt?, start]

theorem avoids_of_cutAt? {needle text before after : List Char}
    (found : cutAt? needle text = some (before, after)) :
    Avoids needle before (needle ++ after) := by
  induction text generalizing before with
  | nil =>
      simp only [cutAt?, Option.map_eq_some_iff, Prod.mk.injEq] at found
      obtain ⟨_, _, rfl, _⟩ := found
      exact avoids_nil _ _
  | cons character text ih =>
      have whole := eq_append_of_cutAt? found
      rw [cutAt?] at found
      split at found
      · simp only [Option.some.injEq, Prod.mk.injEq] at found
        obtain ⟨rfl, _⟩ := found
        exact avoids_nil _ _
      · rename_i missing
        simp only [Option.map_eq_some_iff, Prod.mk.injEq, Prod.exists] at found
        obtain ⟨front, rest, inner, rfl, rfl⟩ := found
        rw [avoids_cons, ← List.cons_append, ← whole]
        exact ⟨dropStart?_eq_none_iff.mp missing, ih inner⟩

theorem cutAt?_of_avoids {needle before after : List Char}
    (avoids : Avoids needle before (needle ++ after)) :
    cutAt? needle (before ++ (needle ++ after)) = some (before, after) := by
  induction before with
  | nil => exact cutAt?_of_prefix after
  | cons character before ih =>
      rw [avoids_cons] at avoids
      have missing := dropStart?_eq_none_iff.mpr avoids.1
      simp [cutAt?, missing, ih avoids.2]

theorem cutAt?_eq_some_iff {needle text before after : List Char} :
    cutAt? needle text = some (before, after) ↔
      text = before ++ (needle ++ after) ∧ Avoids needle before (needle ++ after) := by
  constructor
  · intro found
    exact ⟨eq_append_of_cutAt? found, avoids_of_cutAt? found⟩
  · rintro ⟨rfl, avoids⟩
    exact cutAt?_of_avoids avoids

theorem cutAt?_eq_none_iff {needle text : List Char} :
    cutAt? needle text = none ↔ ¬ needle <:+: text := by
  induction text with
  | nil =>
      simp [cutAt?, dropStart?_eq_none_iff]
  | cons character text ih =>
      rw [cutAt?, List.infix_cons_iff, not_or, ← ih, ← dropStart?_eq_none_iff]
      cases dropStart? needle (character :: text) with
      | none => simp
      | some after => simp

theorem avoids_of_not_mem {first : Char} {needle text : List Char} (absent : first ∉ text)
    (rest : List Char) : Avoids (first :: needle) text rest := by
  induction text with
  | nil => exact avoids_nil _ _
  | cons character text ih =>
      simp only [List.mem_cons, not_or] at absent
      refine avoids_cons.mpr ⟨?_, ih absent.2⟩
      rintro ⟨after, whole⟩
      exact absent.1 (List.cons.inj whole).1

theorem avoids_nil_iff {needle text : List Char} (filled : needle ≠ []) :
    Avoids needle text [] ↔ ¬ needle <:+: text := by
  induction text with
  | nil => simp [filled]
  | cons character text ih => rw [avoids_cons, ih, List.infix_cons_iff, not_or, List.append_nil]

theorem avoids_pair {first second : Char} {text rest : List Char}
    (absent : ¬ [first, second] <:+: text)
    (apart : [first] <:+ text → rest.head? ≠ some second) :
    Avoids [first, second] text rest := by
  induction text with
  | nil => exact avoids_nil _ _
  | cons character text ih =>
      rw [List.infix_cons_iff, not_or] at absent
      have later := ih absent.2 fun last => apart (last.trans (List.suffix_cons ..))
      refine avoids_cons.mpr ⟨?_, later⟩
      intro starts
      obtain ⟨after, whole⟩ := starts
      cases text with
      | nil =>
          simp only [List.cons_append, List.nil_append, List.cons.injEq] at whole
          obtain ⟨rfl, same⟩ := whole
          exact apart (List.suffix_refl _) (by simp [← same])
      | cons next text =>
          simp only [List.cons_append, List.nil_append, List.cons.injEq] at whole
          obtain ⟨rfl, rfl, _⟩ := whole
          exact absent.1 ⟨text, rfl⟩

end Stencil.Text
