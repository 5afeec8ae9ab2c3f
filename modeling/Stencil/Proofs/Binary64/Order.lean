import Stencil.Binary64.Bits

/-!
The order of numbers. Comparing two numbers the other way round turns the answer round, two numbers
are equal exactly if neither is before the other, and what is not a number compares with nothing.
-/

namespace Stencil.Binary64

open Float.Model

variable (left right : Float)

theorem unpacked_compare_swap (left right : UnpackedFloat) :
    right.compare left = (left.compare right).map Ordering.swap := by
  rcases left with leftSign | _ | _ | ⟨leftSign, m, e, _⟩ <;>
    rcases right with rightSign | _ | _ | ⟨rightSign, k, f, _⟩ <;>
    (try cases leftSign) <;> (try cases rightSign) <;> try rfl
  · show some ((compare f e).then (compare k m)).swap =
      some ((compare e f).then (compare m k)).swap.swap
    rw [Ordering.swap_then, ← Std.OrientedOrd.eq_swap, ← Std.OrientedOrd.eq_swap,
      Ordering.swap_swap]
  · show some ((compare f e).then (compare k m)) = some ((compare e f).then (compare m k)).swap
    rw [Ordering.swap_then, ← Std.OrientedOrd.eq_swap, ← Std.OrientedOrd.eq_swap]

theorem lt_iff_compare :
    left < right ↔ left.toModel.unpack.compare right.toModel.unpack = some .lt := by
  show left.lt right = true ↔ _
  rw [Float.lt, decide_eq_true_iff]
  show left.toModel.unpack.lt right.toModel.unpack = true ↔ _
  rw [UnpackedFloat.lt, beq_iff_eq]

theorem beq_iff_compare :
    (left == right) = true ↔ left.toModel.unpack.compare right.toModel.unpack = some .eq := by
  show (left.toModel.unpack.compare right.toModel.unpack == some .eq) = true ↔ _
  rw [beq_iff_eq]

theorem order?_eq_compare :
    order? left right = left.toModel.unpack.compare right.toModel.unpack := by
  have turned := unpacked_compare_swap left.toModel.unpack right.toModel.unpack
  simp only [order?, lt_iff_compare, beq_iff_compare, turned]
  cases left.toModel.unpack.compare right.toModel.unpack with
  | none => simp
  | some answer => cases answer <;> simp

theorem order?_swap : order? right left = (order? left right).map Ordering.swap := by
  rw [order?_eq_compare, order?_eq_compare, unpacked_compare_swap]

theorem beq_iff_order? : (left == right) = true ↔ order? left right = some .eq := by
  rw [beq_iff_compare, order?_eq_compare]

theorem beq_comm : (left == right) = (right == left) := by
  rw [Bool.eq_iff_iff, beq_iff_order?, beq_iff_order?, order?_swap left right]
  cases order? left right with
  | none => simp
  | some answer => cases answer <;> simp

theorem order?_nan_left : order? (0.0 / 0.0) right = none := by
  have nothing : (0.0 / 0.0 : Float).toModel.unpack = .notANumber := by rfl
  rw [order?_eq_compare, nothing]
  rfl

theorem order?_nan_right : order? left (0.0 / 0.0) = none := by
  rw [order?_swap (0.0 / 0.0) left, order?_nan_left, Option.map_none]

end Stencil.Binary64
