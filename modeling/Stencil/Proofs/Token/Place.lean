import Mathlib.Data.List.Basic
import Stencil.Token.Cursor

/-!
Places in a text. A cursor that goes through a text knows at every place how many lines are behind
it, how far into its line it is, and the whole of that line.
-/

namespace Stencil

/-- The location is that of a place in the text: behind some whole lines and the front of a line.
The rest of the text starts there. -/
def Location.PointsAt (location : Location) (text rest : List Char) : Prop :=
  ∃ lines front, text = lines ++ (front ++ rest) ∧
    (lines = [] ∨ lines.getLast? = some '\n') ∧ '\n' ∉ front ∧
    location.line = lines.count '\n' + 1 ∧ location.column = front.length + 1 ∧
    location.lineText =
      String.ofList (Cursor.dropReturn (front ++ rest.takeWhile fun character => character != '\n'))

namespace Cursor

def StandsIn (text : List Char) (cursor : Cursor) : Prop :=
  ∃ lines front, text = lines ++ (front ++ cursor.rest) ∧
    (lines = [] ∨ lines.getLast? = some '\n') ∧ '\n' ∉ front ∧
    cursor.line = lines.count '\n' + 1 ∧ cursor.column = front.length + 1 ∧
    cursor.lineTail = front ++ cursor.rest

theorem ofSource_standsIn (text : List Char) : (ofSource text).StandsIn text :=
  ⟨[], [], rfl, .inl rfl, by simp, rfl, rfl, rfl⟩

theorem StandsIn.step {text : List Char} {cursor : Cursor} (stands : cursor.StandsIn text) :
    cursor.step.StandsIn text := by
  obtain ⟨lines, front, whole, ends, inLine, line, column, tail⟩ := stands
  unfold Cursor.step
  split
  · exact ⟨lines, front, whole, ends, inLine, line, column, tail⟩
  · rename_i rest next
    refine ⟨lines ++ (front ++ ['\n']), [], ?_, ?_, by simp, ?_, rfl, rfl⟩
    · simp [whole, next]
    · simp
    · have none : front.count '\n' = 0 := List.count_eq_zero.mpr inLine
      simp only [line, List.count_append, none, List.count_singleton]
      simp
  · rename_i character rest notBreak next
    refine ⟨lines, front ++ [character], ?_, ends, ?_, line, ?_, ?_⟩
    · simp [whole, next]
    · simp only [List.mem_append, List.mem_singleton, not_or]
      exact ⟨inLine, fun same => notBreak same.symm⟩
    · simp [column]
    · simp [tail, next]

theorem StandsIn.advance {text : List Char} {cursor : Cursor} (stands : cursor.StandsIn text)
    (count : Nat) : (cursor.advance count).StandsIn text := by
  induction count generalizing cursor with
  | zero => exact stands
  | succ count ih => exact ih stands.step

theorem advance_add (count more : Nat) (cursor : Cursor) :
    cursor.advance (count + more) = (cursor.advance count).advance more := by
  induction count generalizing cursor with
  | zero => rw [Nat.zero_add, advance]
  | succ count ih => rw [Nat.succ_add, advance, ih, advance]

theorem rest_step (cursor : Cursor) : cursor.step.rest = cursor.rest.drop 1 := by
  unfold step
  split
  · simp_all
  · simp_all
  · simp_all

theorem rest_advance (count : Nat) (cursor : Cursor) :
    (cursor.advance count).rest = cursor.rest.drop count := by
  induction count generalizing cursor with
  | zero => rfl
  | succ count ih => rw [advance, ih, rest_step, List.drop_drop, Nat.add_comm]

theorem StandsIn.pointsAt {text : List Char} {cursor : Cursor} (stands : cursor.StandsIn text)
    (file : String) : (cursor.location file).PointsAt text cursor.rest := by
  obtain ⟨lines, front, whole, ends, inLine, line, column, tail⟩ := stands
  refine ⟨lines, front, whole, ends, inLine, line, column, ?_⟩
  have free : ∀ character ∈ front, (character != '\n') = true := by
    intro character member
    simp only [bne_iff_ne]
    rintro rfl
    exact inLine member
  rw [location, lineText, tail, List.takeWhile_append_of_pos free]

/-- After some of a text, the cursor has the place where the rest of the text starts. -/
theorem pointsAt_of_append (file : String) (front rest : List Char) :
    (((ofSource (front ++ rest)).advance front.length).location file).PointsAt
      (front ++ rest) rest := by
  have place := ((ofSource_standsIn (front ++ rest)).advance front.length).pointsAt file
  rw [rest_advance] at place
  simpa [ofSource] using place

end Cursor

end Stencil
