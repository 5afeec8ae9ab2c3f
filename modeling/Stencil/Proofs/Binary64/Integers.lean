import Stencil.Proofs.Binary64.Fields
import Stencil.Proofs.Binary64.Order

/-!
Whole numbers as binary64 numbers. An integer below `2 ^ 53` in magnitude fills a significand
without a bit being lost, so that converting it is exact and undoes reading it off a number.
-/

namespace Stencil.Binary64

open Float.Model UnpackedFloat

section Rounding

variable {significand : Nat} {exponent : Int}

/-- Shifting out zeros loses nothing. -/
theorem shiftRight_exact (significand places : Nat) :
    ExtendedMantissa.ofMantissaAndAccuracy (significand * 2 ^ places) .exact >>> places =
      ExtendedMantissa.ofMantissaAndAccuracy significand .exact := by
  induction places generalizing significand with
  | zero =>
      rw [Nat.pow_zero, Nat.mul_one]
      rfl
  | succ places ih =>
      show (ExtendedMantissa.ofMantissaAndAccuracy (significand * 2 ^ (places + 1)) .exact >>>
        places).shiftRightOne = _
      have regrouped : significand * 2 ^ (places + 1) = significand * 2 * 2 ^ places := by
        rw [Nat.pow_succ, Nat.mul_right_comm, Nat.mul_assoc]
      rw [regrouped, ih]
      simp [ExtendedMantissa.shiftRightOne, ExtendedMantissa.ofMantissaAndAccuracy]

theorem log2_mul_two_pow {whole : Nat} (positive : 0 < whole) (places : Nat) :
    (whole * 2 ^ places).log2 = whole.log2 + places := by
  have low : 2 ^ whole.log2 ≤ whole := Nat.log2_self_le (by omega)
  have high : whole < 2 ^ (whole.log2 + 1) := Nat.lt_log2_self
  have filled : 0 < whole * 2 ^ places := Nat.mul_pos positive (Nat.two_pow_pos places)
  refine (Nat.log2_eq_iff (by omega)).mpr ⟨?_, ?_⟩
  · rw [Nat.pow_add]
    exact Nat.mul_le_mul_right _ low
  · rw [Nat.add_right_comm, Nat.pow_add]
    exact Nat.mul_lt_mul_of_pos_right high (Nat.two_pow_pos places)

theorem log2_normal (low : 2 ^ 52 ≤ significand) (high : significand < 2 ^ 53) :
    significand.log2 = 52 :=
  (Nat.log2_eq_iff (by omega)).mpr ⟨low, high⟩

theorem targetExponent_normal (low : 2 ^ 52 ≤ significand) (high : significand < 2 ^ 53)
    (least : -1074 ≤ exponent) (places : Nat) :
    Format.binary64.targetExponent (totalExponent (significand * 2 ^ places) (exponent - places)) =
      exponent := by
  have bits : Format.binary64.mantissaBits = 53 := rfl
  simp only [Format.targetExponent, totalExponent, log2_mul_two_pow (show 0 < significand by omega),
    log2_normal low high, bits, Format.minExponent]
  omega

theorem shift_normal (low : 2 ^ 52 ≤ significand) (high : significand < 2 ^ 53)
    (least : -1074 ≤ exponent) (places : Nat) :
    shiftToTargetExponent Format.binary64 (significand * 2 ^ places) (exponent - places) .exact =
      (ExtendedMantissa.ofMantissaAndAccuracy significand .exact, exponent) := by
  have distance : (exponent - (exponent - places)).toNat = places := by omega
  have arrived : exponent - (places : Int) + (places : Int) = exponent := by omega
  simp only [shiftToTargetExponent, targetExponent_normal low high least, shiftToExponent, distance,
    shiftRight_exact, arrived]

/-- Rounding drops the zeros behind a full significand and nothing else. -/
theorem roundWithAccuracy_normal (low : 2 ^ 52 ≤ significand) (high : significand < 2 ^ 53)
    (least : -1074 ≤ exponent) (sign : Sign) (places : Nat) :
    roundWithAccuracy Format.binary64 sign (significand * 2 ^ places) (exponent - places) .exact =
      .finite sign significand exponent (by omega) := by
  have again := shift_normal low high least 0
  rw [Nat.pow_zero, Nat.mul_one, Int.natCast_zero, Int.sub_zero] at again
  have filled : significand ≠ 0 := by omega
  delta roundWithAccuracy
  rw [shift_normal low high least]
  dsimp only [ExtendedMantissa.ofMantissaAndAccuracy, ExtendedMantissa.roundedMantissa,
    ExtendedMantissa.accuracy, Accuracy.roundToNearestEven]
  rw [again]
  exact dif_neg filled

end Rounding

section Packing

variable (sign : Sign)

theorem sign_packComponents {exponent : BitVec 11} (mantissa : BitVec 52) :
    Sign.ofBitVec (unpackSign (packComponents Format.binary64 sign exponent mantissa)) = sign := by
  have bits : unpackSign (packComponents Format.binary64 sign exponent mantissa) =
      sign.toBitVec := by
    have exponentBound := exponent.isLt
    have mantissaBound := mantissa.isLt
    apply BitVec.eq_of_toNat_eq
    rw [toNat_unpackSign, packComponents]
    show ((sign.toBitVec ++ exponent) ++ mantissa).toNat / _ = _
    rw [BitVec.toNat_append, BitVec.toNat_append, ← Nat.shiftLeft_add_eq_or_of_lt mantissaBound,
      ← Nat.shiftLeft_add_eq_or_of_lt exponentBound]
    simp only [Nat.shiftLeft_eq, Nat.pow_eq]
    omega
  rw [bits]
  cases sign <;> rfl

theorem unpack_packComponents {exponent : BitVec 11} (mantissa : BitVec 52)
    (positive : exponent ≠ 0#11) (bounded : exponent ≠ -1#11) :
    UnpackedFloat.unpack Format.binary64 (packComponents Format.binary64 sign exponent mantissa) =
      .finite sign (2 ^ 52 + mantissa.toNat) ((exponent.toNat : Int) - 1075) (by omega) := by
  have exponents : unpackExponent (packComponents Format.binary64 sign exponent mantissa) =
      exponent := unpackExponent_packComponents ..
  have mantissas : unpackMantissa (packComponents Format.binary64 sign exponent mantissa) =
      mantissa := unpackMantissa_packComponents ..
  delta UnpackedFloat.unpack
  rw [if_neg fun ones => bounded (exponents.symm.trans ones),
    if_neg fun zeros => positive (exponents.symm.trans zeros), UnpackedFloat.finite.injEq,
    exponents, mantissas]
  exact ⟨sign_packComponents sign mantissa, toNat_one_append mantissa, rfl⟩

/-- A number that fits is unchanged by being stored. -/
theorem unpack_pack_normal {significand : Nat} {exponent : Int} (low : 2 ^ 52 ≤ significand)
    (high : significand < 2 ^ 53) (least : -1074 ≤ exponent) (greatest : exponent ≤ 971) :
    (Float.Model.pack (.finite sign significand exponent (by omega))).unpack =
      .finite sign significand exponent (by omega) := by
  have filled := log2_normal low high
  have biased : (exponent + Format.binary64.exponentBias +
      Format.binary64.mantissaBitsWithoutImplicit).toNat = (exponent + 1075).toNat := by
    show (exponent + 1023 + 52).toNat = _
    omega
  have field : (BitVec.ofNat 11 (exponent + 1075).toNat).toNat = (exponent + 1075).toNat := by
    rw [BitVec.toNat_ofNat]
    omega
  have rest : 2 ^ 52 + (BitVec.ofNat 52 significand).toNat = significand := by
    rw [BitVec.toNat_ofNat]
    omega
  have packed : UnpackedFloat.pack Format.binary64 (.finite sign significand exponent (by omega)) =
      packComponents Format.binary64 sign (BitVec.ofNat 11 (exponent + 1075).toNat)
        (BitVec.ofNat 52 significand) := by
    delta UnpackedFloat.pack
    dsimp only
    rw [biased, if_neg (show ¬ 2 ^ 11 ≤ (exponent + 1075).toNat + 1 by omega),
      if_pos (by rw [filled]; rfl)]
  show UnpackedFloat.unpack Format.binary64 (UnpackedFloat.pack Format.binary64 _) = _
  rw [packed, unpack_packComponents]
  · rw [UnpackedFloat.finite.injEq, field, rest]
    exact ⟨rfl, rfl, by omega⟩
  · intro zero
    have := congrArg BitVec.toNat zero
    rw [field] at this
    change (exponent + 1075).toNat = 0 at this
    omega
  · intro ones
    have := congrArg BitVec.toNat ones
    rw [field] at this
    change (exponent + 1075).toNat = 2047 at this
    omega

end Packing

def filled (sign : Sign) (whole : Nat) (positive : 0 < whole) : UnpackedFloat :=
  .finite sign (whole * 2 ^ (52 - whole.log2)) ((whole.log2 : Int) - 52)
    (Nat.mul_pos positive (Nat.two_pow_pos _))

section Whole

variable {whole : Nat} (positive : 0 < whole) (small : whole < 2 ^ 53)

include positive small

theorem log2_le : whole.log2 ≤ 52 := Nat.le_of_lt_succ ((Nat.log2_lt (by omega)).mpr small)

theorem filled_bounds :
    2 ^ 52 ≤ whole * 2 ^ (52 - whole.log2) ∧ whole * 2 ^ (52 - whole.log2) < 2 ^ 53 := by
  have least := log2_le positive small
  have filled : 0 < whole * 2 ^ (52 - whole.log2) := Nat.mul_pos positive (Nat.two_pow_pos _)
  refine (Nat.log2_eq_iff (by omega)).mp ?_
  rw [log2_mul_two_pow positive]
  omega

theorem unpack_pack_filled (sign : Sign) :
    (Float.Model.pack (filled sign whole positive)).unpack = filled sign whole positive := by
  obtain ⟨low, high⟩ := filled_bounds positive small
  have least := log2_le positive small
  exact unpack_pack_normal sign low high (by omega) (by omega)

theorem roundWithAccuracy_filled (sign : Sign) (places : Nat) :
    roundWithAccuracy Format.binary64 sign (whole * 2 ^ (52 - whole.log2) * 2 ^ places)
        ((whole.log2 : Int) - 52 - places) .exact =
      filled sign whole positive := by
  obtain ⟨low, high⟩ := filled_bounds positive small
  exact roundWithAccuracy_normal low high (by omega) sign places

theorem round_whole (sign : Sign) :
    UnpackedFloat.round Format.binary64 sign whole 0 = filled sign whole positive := by
  have least := log2_le positive small
  have target : Format.binary64.targetExponent (totalExponent whole 0) =
      (whole.log2 : Int) - 52 := by
    have bits : Format.binary64.mantissaBits = 53 := rfl
    simp only [Format.targetExponent, totalExponent, bits, Format.minExponent]
    omega
  have distance : (0 - ((whole.log2 : Int) - 52)).toNat = 52 - whole.log2 := by omega
  have arrived : (0 : Int) - ((52 - whole.log2 : Nat) : Int) = (whole.log2 : Int) - 52 := by omega
  have exact := roundWithAccuracy_filled positive small sign 0
  rw [Nat.pow_zero, Nat.mul_one, Int.natCast_zero, Int.sub_zero] at exact
  simp only [UnpackedFloat.round, target, decreaseExponent, distance, arrived, Nat.shiftLeft_eq]
  exact exact

theorem unpack_toFloat :
    whole.toUInt64.toFloat.toModel.unpack = filled .positive whole positive := by
  have word : whole.toUInt64.toNat = whole := Nat.mod_eq_of_lt (by omega)
  have sign : compare (whole : Int) 0 = .gt := Int.compare_eq_gt.mpr (by omega)
  show (Float.Model.pack (UnpackedFloat.normalize Format.binary64 whole.toUInt64.toNat 0
    .positive)).unpack = _
  simp only [word, UnpackedFloat.normalize, sign, Int.toNat_natCast, round_whole positive small,
    unpack_pack_filled positive small]

/-- The conversion of a natural number multiplies by one, which is exact. -/
theorem unpack_ofNat :
    (Float.ofNat whole).toModel.unpack = filled .positive whole positive := by
  have scaled : Float.ofNat whole = whole.toUInt64.toFloat * Float.ofBits 0x3FF0000000000000 := by
    show Float.ofScientific whole false 0 = _
    rw [Float.ofScientific, dif_pos ⟨small, by omega⟩]
    rfl
  have one : (Float.ofBits 0x3FF0000000000000).toModel.unpack =
      .finite .positive (2 ^ 52) (-52) (by decide) := by rfl
  rw [scaled]
  show (Float.Model.pack (UnpackedFloat.mul Format.binary64 whole.toUInt64.toFloat.toModel.unpack
    (Float.ofBits 0x3FF0000000000000).toModel.unpack)).unpack = _
  rw [unpack_toFloat positive small, one]
  show (Float.Model.pack (roundWithAccuracy Format.binary64 .positive
    (whole * 2 ^ (52 - whole.log2) * 2 ^ 52) ((whole.log2 : Int) - 52 - (52 : Nat))
    .exact)).unpack = _
  rw [roundWithAccuracy_filled positive small, unpack_pack_filled positive small]

theorem unpack_neg_ofNat :
    (-(Float.ofNat whole)).toModel.unpack = filled .negative whole positive := by
  show (Float.Model.pack (Float.ofNat whole).toModel.unpack.neg).unpack = _
  rw [unpack_ofNat positive small]
  exact unpack_pack_filled positive small .negative

end Whole

theorem decode_ofInt {value : Int} (nonzero : value ≠ 0) (small : value.natAbs < 2 ^ 53) :
    decode (Float.ofInt value) =
        .finite (value.natAbs * 2 ^ (52 - value.natAbs.log2)) ((value.natAbs.log2 : Int) - 52) ∧
      isNegative (Float.ofInt value) = decide (value < 0) := by
  have unsigned (whole : Nat) (positive : 0 < whole) (small : whole < 2 ^ 53) :
      isNegative (Float.ofNat whole) = false := by
    rw [Bool.eq_false_iff, ne_eq, isNegative_iff (unpack_ofNat positive small)]
    simp
  cases value with
  | ofNat whole =>
      have positive : 0 < whole := by simp at nonzero; omega
      refine ⟨?_, ?_⟩
      · rw [decode_eq_magnitude]
        exact congrArg magnitude (unpack_ofNat positive small)
      · exact unsigned whole positive small
  | negSucc whole =>
      refine ⟨?_, ?_⟩
      · rw [decode_eq_magnitude]
        exact congrArg magnitude (unpack_neg_ofNat (Nat.succ_pos whole) small)
      · have below : Int.negSucc whole < 0 := by omega
        rw [decide_eq_true below]
        exact (isNegative_iff (unpack_neg_ofNat (Nat.succ_pos whole) small)).mpr rfl

/-- A number without a fraction is finite, and either its significand is raised to the integer or
the integer is raised to its significand. -/
theorem exists_of_toInt? {number : Float} {value : Int} (whole : toInt? number = some value) :
    ∃ (significand : Nat) (exponent : Int) (amount : Nat),
      decode number = .finite significand exponent ∧
      value = (if isNegative number then -(amount : Int) else (amount : Int)) ∧
      (0 ≤ exponent ∧ amount = significand * 2 ^ exponent.natAbs ∨
        exponent < 0 ∧ significand = amount * 2 ^ exponent.natAbs) := by
  simp only [toInt?, Nat.pow_eq] at whole
  split at whole
  · cases whole
  · cases whole
  · rename_i significand exponent decoded
    split at whole
    · rename_i raised
      exact ⟨significand, exponent, _, decoded, (Option.some.inj whole).symm, .inl ⟨raised, rfl⟩⟩
    · rename_i lowered
      split at whole
      · rename_i divides
        exact ⟨significand, exponent, _, decoded, (Option.some.inj whole).symm,
          .inr ⟨by omega, (Nat.div_mul_cancel (Nat.dvd_of_mod_eq_zero divides)).symm⟩⟩
      · cases whole

theorem isNegative_of_signed {number : Float} {amount : Nat} {value : Int}
    (signed : value = (if isNegative number then -(amount : Int) else (amount : Int)))
    (nonzero : value ≠ 0) :
    value.natAbs = amount ∧ isNegative number = decide (value < 0) := by
  cases minus : isNegative number with
  | false =>
      rw [minus, if_neg Bool.false_ne_true] at signed
      exact ⟨by omega, (decide_eq_false (by omega)).symm⟩
  | true =>
      rw [minus, if_pos rfl] at signed
      exact ⟨by omega, (decide_eq_true (by omega)).symm⟩

theorem decode_of_toInt? {number : Float} {value : Int} (whole : toInt? number = some value)
    (nonzero : value ≠ 0) (small : value.natAbs < 2 ^ 53) :
    ∃ places : Nat, decode number = .finite (value.natAbs * 2 ^ places) (-places) ∧
      isNegative number = decide (value < 0) ∧ 2 ^ 52 ≤ value.natAbs * 2 ^ places ∧
      value.natAbs * 2 ^ places < 2 ^ 53 := by
  obtain ⟨significand, exponent, amount, decoded, signed, shifted⟩ := exists_of_toInt? whole
  obtain ⟨high, full⟩ := bounds_of_decode decoded
  obtain ⟨rfl, minus⟩ := isNegative_of_signed signed nonzero
  rcases shifted with ⟨raised, shifted⟩ | ⟨lowered, rfl⟩
  · have low : 2 ^ 52 ≤ significand := by omega
    have flat : exponent.natAbs = 0 := by
      refine Nat.eq_zero_of_not_pos fun raised => ?_
      have := Nat.mul_le_mul low (Nat.pow_le_pow_right (show 0 < 2 by omega) raised)
      omega
    rw [flat, Nat.pow_zero, Nat.mul_one] at shifted
    refine ⟨0, ?_, minus, by omega, by omega⟩
    rw [decoded, shifted, Nat.pow_zero, Nat.mul_one, Int.natAbs_eq_zero.mp flat]
    rfl
  · have low : 2 ^ 52 ≤ value.natAbs * 2 ^ exponent.natAbs := by
      refine full.resolve_right fun least => ?_
      have filled : 1 ≤ value.natAbs := by omega
      have := Nat.mul_le_mul filled (Nat.pow_le_pow_right (show 0 < 2 by omega)
        (show 53 ≤ exponent.natAbs by omega))
      omega
    refine ⟨exponent.natAbs, ?_, minus, low, high⟩
    rw [decoded, Int.ofNat_natAbs_of_nonpos (by omega), Int.neg_neg]

/-- Reading a whole number and writing it again restores the number. -/
theorem ofInt_of_toInt? {number : Float} {value : Int} (whole : toInt? number = some value)
    (nonzero : value ≠ 0) (small : value.natAbs < 2 ^ 53) : Float.ofInt value = number := by
  obtain ⟨places, decoded, sign, low, high⟩ := decode_of_toInt? whole nonzero small
  obtain ⟨written, writtenSign⟩ := decode_ofInt nonzero small
  have top : value.natAbs.log2 + places = 52 := by
    rw [← log2_mul_two_pow (show 0 < value.natAbs by omega)]
    exact log2_normal low high
  have distance : 52 - value.natAbs.log2 = places := by omega
  have raised : (value.natAbs.log2 : Int) - 52 = -places := by omega
  rw [distance, raised] at written
  exact eq_of_decode written decoded (writtenSign.trans sign.symm)

theorem decode_of_toInt?_zero {number : Float} (whole : toInt? number = some 0) :
    ∃ exponent, decode number = .finite 0 exponent := by
  obtain ⟨significand, exponent, amount, decoded, signed, shifted⟩ := exists_of_toInt? whole
  have nothing : amount = 0 := by split at signed <;> omega
  have zero : significand = 0 := by
    rcases shifted with ⟨_, shifted⟩ | ⟨_, shifted⟩
    · have scale : 0 < 2 ^ exponent.natAbs := Nat.two_pow_pos _
      exact (Nat.mul_eq_zero.mp (shifted.symm.trans nothing)).resolve_right (by omega)
    · rw [shifted, nothing, Nat.zero_mul]
  exact ⟨exponent, zero ▸ decoded⟩

theorem toInt?_zero : toInt? 0.0 = some 0 := by
  have decoded : decode 0.0 = .finite 0 (-1074) := by rfl
  rw [toInt?, decoded]
  simp only [Nat.zero_mod, Nat.zero_div, Int.natCast_zero, Int.neg_zero, ite_self, if_true]
  rfl

theorem isFinite_of_decode {number : Float} {significand : Nat} {exponent : Int}
    (decoded : decode number = .finite significand exponent) : number.isFinite = true := by
  rw [decode_eq_magnitude] at decoded
  show number.toModel.unpack.isFinite = true
  cases unpacked : number.toModel.unpack with
  | notANumber | infinity => rw [unpacked] at decoded; cases decoded
  | zero | finite => rfl

theorem isFinite_of_toInt? {number : Float} {value : Int} (whole : toInt? number = some value) :
    number.isFinite = true := by
  obtain ⟨_, _, _, decoded, _⟩ := exists_of_toInt? whole
  exact isFinite_of_decode decoded

theorem beq_self {number : Float} (finite : number.isFinite = true) :
    (number == number) = true := by
  rw [beq_iff_compare]
  change number.toModel.unpack.isFinite = true at finite
  cases unpacked : number.toModel.unpack with
  | notANumber | infinity => rw [unpacked] at finite; cases finite
  | zero sign => cases sign <;> rfl
  | finite sign significand exponent positive =>
      have same : (compare exponent exponent).then (compare significand significand) = .eq := by
        simp
      cases sign with
      | positive => exact congrArg some same
      | negative => exact congrArg (fun answer => some answer.swap) same

/-- The two zeros are equal. -/
theorem beq_of_decode_zero {left right : Float} {leftExponent rightExponent : Int}
    (leftZero : decode left = .finite 0 leftExponent)
    (rightZero : decode right = .finite 0 rightExponent) : (left == right) = true := by
  have zero {number : Float} {exponent : Int} (decoded : decode number = .finite 0 exponent) :
      ∃ sign, number.toModel.unpack = .zero sign := by
    rw [decode_eq_magnitude] at decoded
    cases unpacked : number.toModel.unpack with
    | notANumber | infinity => rw [unpacked] at decoded; cases decoded
    | zero sign => exact ⟨sign, rfl⟩
    | finite sign significand exponent positive =>
        rw [unpacked] at decoded
        cases decoded
        exact nomatch positive
  obtain ⟨leftSign, leftUnpacked⟩ := zero leftZero
  obtain ⟨rightSign, rightUnpacked⟩ := zero rightZero
  rw [beq_iff_compare, leftUnpacked, rightUnpacked]
  rfl

/-- Numbers that are the same integer are equal. -/
theorem beq_of_toInt? {left right : Float} {value : Int} (leftWhole : toInt? left = some value)
    (rightWhole : toInt? right = some value) (small : value.natAbs < 2 ^ 53) :
    (left == right) = true := by
  by_cases zero : value = 0
  · subst zero
    obtain ⟨_, leftDecoded⟩ := decode_of_toInt?_zero leftWhole
    obtain ⟨_, rightDecoded⟩ := decode_of_toInt?_zero rightWhole
    exact beq_of_decode_zero leftDecoded rightDecoded
  · have same : left = right :=
      (ofInt_of_toInt? leftWhole zero small).symm.trans (ofInt_of_toInt? rightWhole zero small)
    rw [← same]
    exact beq_self (isFinite_of_toInt? leftWhole)

end Stencil.Binary64
