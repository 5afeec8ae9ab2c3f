import Mathlib.Algebra.Group.Nat.Defs
import Stencil.Binary64.Bits

/-!
The fields of a number. The bits that a magnitude is decoded from are the ones that arithmetic takes
a number apart by, and a finite number is determined by its sign and magnitude.
-/

namespace Stencil.Binary64

open Float.Model UnpackedFloat

section Fields

variable (bits : BitVec Format.binary64.numBits)

theorem toNat_unpackMantissa : (unpackMantissa bits).toNat = bits.toNat % Nat.pow 2 52 := by
  simp [unpackMantissa, BitVec.extractLsb]

theorem toNat_unpackExponent :
    (unpackExponent bits).toNat = bits.toNat / Nat.pow 2 52 % Nat.pow 2 11 := by
  simp [unpackExponent, BitVec.extractLsb, Nat.shiftRight_eq_div_pow]

theorem toNat_unpackSign : (unpackSign bits).toNat = bits.toNat / Nat.pow 2 63 := by
  have bound : bits.toNat < 2 ^ 64 := bits.isLt
  show (BitVec.cast (by rfl) (BitVec.extractLsb 63 63 bits) : BitVec 1).toNat = _
  rw [BitVec.toNat_cast, BitVec.extractLsb_toNat, Nat.shiftRight_eq_div_pow]
  simp only [Nat.pow_eq]
  omega

end Fields

def magnitude : UnpackedFloat → Magnitude
  | .notANumber => .notANumber
  | .infinity _ => .infinite
  | .zero _ => .finite 0 (-1074)
  | .finite _ significand exponent _ => .finite significand exponent

theorem toNat_one_append {width : Nat} (field : BitVec width) :
    (1#1 ++ field).toNat = 2 ^ width + field.toNat := by
  rw [BitVec.toNat_append, ← Nat.shiftLeft_add_eq_or_of_lt field.isLt]
  simp [Nat.shiftLeft_eq]

theorem decode_eq_magnitude (number : Float) :
    decode number = magnitude number.toModel.unpack := by
  let bits : BitVec Format.binary64.numBits := number.toModel.toBits.toBitVec
  have mantissa := toNat_unpackMantissa bits
  have exponent := toNat_unpackExponent bits
  show (if bits.toNat / Nat.pow 2 52 % Nat.pow 2 11 = 2047 then
      (if bits.toNat % Nat.pow 2 52 = 0 then .infinite else .notANumber)
    else if bits.toNat / Nat.pow 2 52 % Nat.pow 2 11 = 0 then
      .finite (bits.toNat % Nat.pow 2 52) (-1074)
    else .finite (Nat.pow 2 52 + bits.toNat % Nat.pow 2 52)
      (((bits.toNat / Nat.pow 2 52 % Nat.pow 2 11 : Nat) : Int) - 1075)) =
    magnitude (UnpackedFloat.unpack Format.binary64 bits)
  have bias : (Format.binary64.exponentBias : Int) + Format.binary64.mantissaBitsWithoutImplicit =
      1075 := by rfl
  delta UnpackedFloat.unpack
  rw [← mantissa, ← exponent, bias]
  by_cases largest : (unpackExponent bits).toNat = 2047
  · rw [if_pos largest, if_pos (BitVec.eq_of_toNat_eq largest)]
    by_cases empty : (unpackMantissa bits).toNat = 0
    · rw [if_pos empty, if_pos (BitVec.eq_of_toNat_eq empty)]
      rfl
    · rw [if_neg empty, if_neg fun same => empty (BitVec.toNat_inj.mpr same)]
      rfl
  rw [if_neg largest, if_neg fun same => largest (BitVec.toNat_inj.mpr same)]
  by_cases least : (unpackExponent bits).toNat = 0
  · rw [if_pos least, if_pos (BitVec.eq_of_toNat_eq least)]
    by_cases empty : unpackMantissa bits = 0#52
    · rw [dif_pos empty, empty]
      rfl
    · rw [dif_neg empty, least]
      rfl
  · rw [if_neg least, if_neg fun same => least (BitVec.toNat_inj.mpr same)]
    have whole : (1#1 ++ unpackMantissa bits).toNat = Nat.pow 2 52 + (unpackMantissa bits).toNat :=
      toNat_one_append (unpackMantissa bits)
    rw [← whole]
    rfl

theorem isNegative_iff {number : Float} {sign : Sign} {significand : Nat} {exponent : Int}
    {positive : 0 < significand}
    (unpacked : number.toModel.unpack = .finite sign significand exponent positive) :
    isNegative number = true ↔ sign = .negative := by
  let bits : BitVec Format.binary64.numBits := number.toModel.toBits.toBitVec
  have field : Sign.ofBitVec (unpackSign bits) = sign := by
    change UnpackedFloat.unpack Format.binary64 bits = _ at unpacked
    delta UnpackedFloat.unpack at unpacked
    by_cases largest : unpackExponent bits = -1#11
    · rw [if_pos largest] at unpacked
      by_cases empty : unpackMantissa bits = 0#52
      · rw [if_pos empty] at unpacked
        cases unpacked
      · rw [if_neg empty] at unpacked
        cases unpacked
    rw [if_neg largest] at unpacked
    by_cases least : unpackExponent bits = 0#11
    · rw [if_pos least] at unpacked
      by_cases empty : unpackMantissa bits = 0#52
      · rw [dif_pos empty] at unpacked
        cases unpacked
      · rw [dif_neg empty] at unpacked
        exact (UnpackedFloat.finite.inj unpacked).1
    · rw [if_neg least] at unpacked
      exact (UnpackedFloat.finite.inj unpacked).1
  have place := toNat_unpackSign bits
  have bound : bits.toNat < 2 ^ 64 := bits.isLt
  show (bits.toNat / Nat.pow 2 63 == 1) = true ↔ _
  rw [← field, Sign.ofBitVec, beq_iff_eq, ← place]
  split
  · rename_i plus
    simp [plus]
  · rename_i minus
    rw [← BitVec.toNat_inj] at minus
    have small := (unpackSign bits).isLt
    simp at minus small ⊢
    omega

/-- A significand that leaves room for no further bit, unless the exponent is the least one. -/
theorem bounds_of_decode {number : Float} {significand : Nat} {exponent : Int}
    (decoded : decode number = .finite significand exponent) :
    significand < 2 ^ 53 ∧ (2 ^ 52 ≤ significand ∨ exponent = -1074) := by
  simp only [decode, Nat.pow_eq] at decoded
  split at decoded
  · split at decoded <;> cases decoded
  · split at decoded <;> cases decoded <;> omega

theorem toNat_toBits {number : Float} {significand : Nat} {exponent : Int}
    (decoded : decode number = .finite significand exponent) :
    number.toBits.toNat = (if isNegative number then 2 ^ 63 else 0) +
      if significand < 2 ^ 52 then significand
      else (exponent + 1075).toNat * 2 ^ 52 + (significand - 2 ^ 52) := by
  have bound := number.toBits.toNat_lt
  simp only [decode, Nat.pow_eq] at decoded
  simp only [isNegative, Nat.pow_eq, beq_iff_eq]
  split at decoded
  · split at decoded <;> cases decoded
  · split at decoded <;> cases decoded <;> split <;> split <;> omega

theorem eq_of_decode {left right : Float} {significand : Nat} {exponent : Int}
    (leftDecoded : decode left = .finite significand exponent)
    (rightDecoded : decode right = .finite significand exponent)
    (signs : isNegative left = isNegative right) : left = right := by
  have same : left.toBits = right.toBits := by
    apply UInt64.toNat_inj.mp
    rw [toNat_toBits leftDecoded, toNat_toBits rightDecoded, signs]
  obtain ⟨⟨leftBits, leftValid⟩⟩ := left
  obtain ⟨⟨rightBits, rightValid⟩⟩ := right
  obtain rfl : leftBits = rightBits := same
  rfl

end Stencil.Binary64
