/-!
Looking for one text inside another: the place where it first occurs splits the text in two.
-/

namespace Stencil.Text

def dropStart? : (start text : List Char) → Option (List Char)
  | [], text => some text
  | _ :: _, [] => none
  | expected :: start, character :: text =>
      if expected = character then dropStart? start text else none

def startsWith (start text : List Char) : Bool := (dropStart? start text).isSome

def cutAt? (needle : List Char) : List Char → Option (List Char × List Char)
  | [] => (dropStart? needle []).map fun after => ([], after)
  | character :: text =>
      match dropStart? needle (character :: text) with
      | some after => some ([], after)
      | none => (cutAt? needle text).map fun (before, after) => (character :: before, after)

def contains (needle text : List Char) : Bool := (cutAt? needle text).isSome

def endsWith (ending text : List Char) : Bool := startsWith ending.reverse text.reverse

theorem eq_append_of_dropStart? {start text after : List Char}
    (found : dropStart? start text = some after) : text = start ++ after := by
  induction start generalizing text with
  | nil => simpa [dropStart?] using found
  | cons expected start ih =>
      cases text with
      | nil => simp [dropStart?] at found
      | cons character text =>
          simp only [dropStart?] at found
          split at found
          · rename_i same
            simp [same, ih found]
          · simp at found

theorem dropStart?_append (start after : List Char) :
    dropStart? start (start ++ after) = some after := by
  induction start with
  | nil => rfl
  | cons expected start ih => simp [dropStart?, ih]

/-- A text that is found leaves what stands before it and what stands after it. -/
theorem eq_append_of_cutAt? {needle text before after : List Char}
    (found : cutAt? needle text = some (before, after)) : text = before ++ (needle ++ after) := by
  induction text generalizing before with
  | nil =>
      simp only [cutAt?, Option.map_eq_some_iff, Prod.mk.injEq] at found
      obtain ⟨rest, start, empty, same⟩ := found
      subst empty same
      simpa using eq_append_of_dropStart? start
  | cons character text ih =>
      simp only [cutAt?] at found
      split at found
      · rename_i rest start
        simp only [Option.some.injEq, Prod.mk.injEq] at found
        obtain ⟨empty, same⟩ := found
        subst empty same
        simpa using eq_append_of_dropStart? start
      · simp only [Option.map_eq_some_iff, Prod.mk.injEq, Prod.exists] at found
        obtain ⟨before', after', inner, head, same⟩ := found
        subst head same
        simp [ih inner]

end Stencil.Text
