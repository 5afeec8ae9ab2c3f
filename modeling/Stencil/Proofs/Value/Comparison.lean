import Mathlib.Data.String.Basic
import Stencil.Proofs.Binary64.Order
import Stencil.Value.Operators

/-!
The comparison operators and each other. Being the same, being loosely equal and the order are told
by three functions; they agree wherever two of them have something to say about the same values.
-/

namespace Stencil.Value

def Holds (operator : BinaryOp) (left right : Value) : Prop :=
  applyBinary operator left right = .bool true

def isScalar : Value → Bool
  | .bool _ => true
  | .number _ => true
  | .text _ => true
  | _ => false

mutual

theorem same_comm (left right : Value) : left.same right = right.same left := by
  cases left with
  | number left =>
      cases right with
      | number right => rw [same, same, Binary64.beq_comm]
      | _ => simp [same]
  | array lefts =>
      cases right with
      | array rights => rw [same, same, sameItems_comm lefts rights]
      | _ => simp [same]
  | map lefts =>
      cases right with
      | map rights => rw [same, same, sameEntries_comm lefts rights]
      | _ => simp [same]
  | null => cases right <;> simp [same]
  | bool left =>
      cases right with
      | bool right => rw [same, same, Bool.beq_comm]
      | _ => simp [same]
  | text left =>
      cases right with
      | text right => rw [same, same, Bool.beq_comm]
      | _ => simp [same]
  | function left =>
      cases right with
      | function right => rw [same, same, Bool.beq_comm]
      | _ => simp [same]

theorem sameItems_comm (lefts rights : List Value) :
    sameItems lefts rights = sameItems rights lefts := by
  match lefts, rights with
  | [], [] => rfl
  | [], _ :: _ => simp [sameItems]
  | _ :: _, [] => simp [sameItems]
  | left :: lefts, right :: rights =>
      rw [sameItems, sameItems, same_comm left right, sameItems_comm lefts rights]

theorem sameEntries_comm (lefts rights : List (String × Value)) :
    sameEntries lefts rights = sameEntries rights lefts := by
  match lefts, rights with
  | [], [] => rfl
  | [], _ :: _ => simp [sameEntries]
  | _ :: _, [] => simp [sameEntries]
  | (leftKey, left) :: lefts, (rightKey, right) :: rights =>
      rw [sameEntries, sameEntries, same_comm left right, sameEntries_comm lefts rights,
        Bool.beq_comm]

end

variable {left right : Value}

theorem sameNumber_comm (left right : Value) : left.sameNumber right = right.sameNumber left := by
  unfold sameNumber
  cases left.toNumber? <;> cases right.toNumber? <;> simp [Binary64.beq_comm]

theorem looselyEqual_comm (left right : Value) :
    left.looselyEqual right = right.looselyEqual left := by
  have numbers := sameNumber_comm left right
  have contents := same_comm left right
  cases left <;> cases right <;> simp only [looselyEqual] <;> assumption

/-- On values of one type nothing is loose about equality. -/
theorem looselyEqual_eq_same (types : left.typeName = right.typeName) :
    left.looselyEqual right = left.same right := by
  cases left <;> cases right <;> first | rfl | simp [typeName] at types
  rename_i left right
  cases left <;> cases right <;> decide

theorem typeName_eq_of_same (equal : left.same right = true) : left.typeName = right.typeName := by
  cases left <;> cases right <;> first | rfl | simp [same] at equal

theorem textOrder_swap (left right : String) :
    textOrder right left = (textOrder left right).swap := by
  rcases lt_trichotomy left right with less | rfl | greater
  · simp [textOrder, less, lt_asymm less, less.ne']
  · simp [textOrder]
  · simp [textOrder, greater, lt_asymm greater, greater.ne']

theorem textOrder_eq_iff {left right : String} : textOrder left right = .eq ↔ left = right := by
  unfold textOrder
  split
  · rename_i less
    simp [less.ne]
  · simp

theorem order?_swap (left right : Value) :
    right.order? left = (left.order? right).map Ordering.swap := by
  have numbers := Binary64.order?_swap left.numeric right.numeric
  cases left <;> cases right <;> first | exact numbers | exact congrArg some (textOrder_swap _ _)

theorem numeric_eq (filled : left ≠ .null) : left.numeric = left.toNumber?.getD (0.0 / 0.0) := by
  cases left with
  | null => exact absurd rfl filled
  | _ => rfl

/-- A value without a number stands for none that could be equal to another. -/
theorem sameNumber_iff_order? (filledLeft : left ≠ .null) (filledRight : right ≠ .null) :
    left.sameNumber right = true ↔ Binary64.order? left.numeric right.numeric = some .eq := by
  rw [numeric_eq filledLeft, numeric_eq filledRight, sameNumber.eq_def]
  cases left.toNumber? with
  | none => simp [Binary64.order?_nan_left]
  | some number =>
      cases right.toNumber? with
      | none => simp [Binary64.order?_nan_right]
      | some other => simp [Binary64.beq_iff_order?]

theorem looselyEqual_iff_order? (leftScalar : left.isScalar = true)
    (rightScalar : right.isScalar = true) :
    left.looselyEqual right = true ↔ left.order? right = some .eq := by
  have filledLeft : left ≠ .null := by
    rintro rfl
    exact nomatch leftScalar
  have filledRight : right ≠ .null := by
    rintro rfl
    exact nomatch rightScalar
  have numbers := sameNumber_iff_order? filledLeft filledRight
  match left, right with
  | .text left, .text right => simp [looselyEqual, same, order?, textOrder_eq_iff]
  | .text _, .bool _ | .text _, .number _ => exact numbers
  | .bool _, .bool _ | .bool _, .number _ | .bool _, .text _ => exact numbers
  | .number _, .bool _ | .number _, .number _ | .number _, .text _ => exact numbers

theorem looselyEqual_null : left.looselyEqual .null = true ↔ left = .null := by
  cases left <;> simp [looselyEqual]

/-- Arrays, maps and functions stand for no number, so that they are before and behind nothing. -/
theorem order?_of_composite (composite : left.isScalar = false) (filled : left ≠ .null) :
    left.order? right = none := by
  have nothing (other : Float) : Binary64.order? (0.0 / 0.0) other = none :=
    Binary64.order?_nan_left other
  cases left with
  | null => exact absurd rfl filled
  | bool _ | number _ | text _ => exact nomatch composite
  | array _ | map _ | function _ => exact nothing right.numeric

theorem order?_of_looselyEqual {answer : Ordering} (equal : left.looselyEqual right = true)
    (ordered : left.order? right = some answer) : answer = .eq := by
  have turned := order?_swap right left
  by_cases leftNull : left = .null
  · subst leftNull
    rw [looselyEqual_comm, looselyEqual_null] at equal
    subst equal
    have zeros : Binary64.order? 0.0 0.0 = some .eq := by decide
    exact Option.some.inj (ordered.symm.trans zeros)
  have rightNull : right ≠ .null := by
    rintro rfl
    exact leftNull (looselyEqual_null.mp equal)
  cases leftScalar : left.isScalar with
  | false => simp [order?_of_composite leftScalar leftNull] at ordered
  | true =>
      cases rightScalar : right.isScalar with
      | false => simp [turned, order?_of_composite rightScalar rightNull] at ordered
      | true =>
          rw [(looselyEqual_iff_order? leftScalar rightScalar).mp equal] at ordered
          exact (Option.some.inj ordered).symm

section Operators

variable {left right : Value}

theorem holds_same : Holds .same left right ↔ left.same right = true := by
  simp [Holds, applyBinary]

theorem holds_equal : Holds .equal left right ↔ left.looselyEqual right = true := by
  simp [Holds, applyBinary]

theorem holds_less : Holds .less left right ↔ left.order? right = some .lt := by
  simp [Holds, applyBinary]

theorem holds_greater : Holds .greater left right ↔ left.order? right = some .gt := by
  simp [Holds, applyBinary]

theorem holds_lessEqual :
    Holds .lessEqual left right ↔ left.order? right = some .lt ∨ left.order? right = some .eq := by
  simp [Holds, applyBinary]

theorem holds_greaterEqual :
    Holds .greaterEqual left right ↔
      left.order? right = some .gt ∨ left.order? right = some .eq := by
  simp [Holds, applyBinary]

theorem less_eq_greater : applyBinary .less left right = applyBinary .greater right left := by
  rw [applyBinary, applyBinary, order?_swap left right]
  cases left.order? right with
  | none => rfl
  | some answer => cases answer <;> rfl

theorem lessEqual_eq_greaterEqual :
    applyBinary .lessEqual left right = applyBinary .greaterEqual right left := by
  rw [applyBinary, applyBinary, order?_swap left right]
  cases left.order? right with
  | none => rfl
  | some answer => cases answer <;> rfl

end Operators

/-- How the comparison operators agree, on any two values: both equalities are symmetric and have
their negations, the strict one implies the loose one and is the same on values of one type, an
order turned round is the order of the values exchanged, at most one of `<`, `==` and `>` holds, and
for scalars loose equality is being neither before nor behind. -/
theorem comparisons_agree (left right : Value) :
    (applyBinary .same left right = applyBinary .same right left ∧
      applyBinary .equal left right = applyBinary .equal right left) ∧
    (applyBinary .notSame left right = applyUnary .not (applyBinary .same left right) ∧
      applyBinary .notEqual left right = applyUnary .not (applyBinary .equal left right)) ∧
    (Holds .same left right → Holds .equal left right) ∧
    (left.typeName = right.typeName →
      applyBinary .equal left right = applyBinary .same left right) ∧
    (applyBinary .less left right = applyBinary .greater right left ∧
      applyBinary .lessEqual left right = applyBinary .greaterEqual right left) ∧
    (¬ (Holds .less left right ∧ Holds .equal left right) ∧
      ¬ (Holds .less left right ∧ Holds .greater left right) ∧
      ¬ (Holds .equal left right ∧ Holds .greater left right)) ∧
    (left.isScalar = true → right.isScalar = true →
      (Holds .equal left right ↔
        Holds .lessEqual left right ∧ Holds .greaterEqual left right)) := by
  refine ⟨⟨?_, ?_⟩, ⟨rfl, rfl⟩, ?_, ?_, ⟨less_eq_greater, lessEqual_eq_greaterEqual⟩,
    ⟨?_, ?_, ?_⟩, ?_⟩
  · rw [applyBinary, applyBinary, same_comm]
  · rw [applyBinary, applyBinary, looselyEqual_comm]
  · rw [holds_same, holds_equal]
    intro equal
    rwa [looselyEqual_eq_same (typeName_eq_of_same equal)]
  · intro types
    rw [applyBinary, applyBinary, looselyEqual_eq_same types]
  · rw [holds_less, holds_equal]
    rintro ⟨less, equal⟩
    exact nomatch order?_of_looselyEqual equal less
  · rw [holds_less, holds_greater]
    rintro ⟨less, greater⟩
    exact nomatch less.symm.trans greater
  · rw [holds_equal, holds_greater]
    rintro ⟨equal, greater⟩
    exact nomatch order?_of_looselyEqual equal greater
  · intro leftScalar rightScalar
    rw [holds_equal, holds_lessEqual, holds_greaterEqual,
      looselyEqual_iff_order? leftScalar rightScalar]
    cases left.order? right with
    | none => simp
    | some answer => cases answer <;> simp

/-- The two zeros are one number to every operator, although their signs differ. -/
theorem comparisons_agree_on_zeros :
    Holds .same (.number 0.0) (.number (-0.0)) ∧ Holds .equal (.number 0.0) (.number (-0.0)) ∧
      Holds .lessEqual (.number 0.0) (.number (-0.0)) ∧
      Holds .greaterEqual (.number 0.0) (.number (-0.0)) := by
  have same : Holds .same (.number 0.0) (.number (-0.0)) := congrArg Value.bool (by decide)
  obtain ⟨_, _, implied, agree, _, _, scalars⟩ := comparisons_agree (.number 0.0) (.number (-0.0))
  have equal := implied same
  exact ⟨(agree rfl).symm.trans equal, equal, (scalars rfl rfl).mp equal⟩

end Stencil.Value
