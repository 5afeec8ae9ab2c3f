/-!
Binary64 numbers as exact values. A finite number is a sign and a magnitude
`significand * 2 ^ exponent`; `decode` reads these from the bits and `encode` writes them back.
-/

namespace Stencil.Binary64

inductive Magnitude where
  | notANumber
  | infinite
  | finite (significand : Nat) (exponent : Int)

def isNegative (number : Float) : Bool := number.toBits.toNat / Nat.pow 2 63 == 1

def decode (number : Float) : Magnitude :=
  let bits : Nat := number.toBits.toNat
  let biased : Nat := bits / Nat.pow 2 52 % Nat.pow 2 11
  let fraction : Nat := bits % Nat.pow 2 52
  if biased = 2047 then (if fraction = 0 then .infinite else .notANumber)
  else if biased = 0 then .finite fraction (-1074)
  else .finite (Nat.pow 2 52 + fraction) ((biased : Int) - 1075)

def normalize : (steps significand : Nat) → (exponent : Int) → Nat × Int
  | 0, significand, exponent => (significand, exponent)
  | steps + 1, significand, exponent =>
      if significand < Nat.pow 2 52 ∧ -1074 < exponent then
        normalize steps (2 * significand) (exponent - 1)
      else (significand, exponent)

/-- The number with a significand below `2 ^ 53` and an exponent of at least `-1074`, which is
exact as long as it is finite. -/
def encode (negative : Bool) (significand : Nat) (exponent : Int) : Float :=
  let (significand, exponent) := normalize 53 significand exponent
  let magnitude :=
    if significand < Nat.pow 2 52 then significand
    else (exponent + 1075).toNat * Nat.pow 2 52 + (significand - Nat.pow 2 52)
  Float.ofBits (UInt64.ofNat (if negative then Nat.pow 2 63 + magnitude else magnitude))

def toInt? (number : Float) : Option Int :=
  match decode number with
  | .notANumber => none
  | .infinite => none
  | .finite significand exponent =>
      let scale := Nat.pow 2 exponent.natAbs
      let signed := fun (magnitude : Nat) =>
        if isNegative number then -(magnitude : Int) else (magnitude : Int)
      if 0 ≤ exponent then some (signed (significand * scale))
      else if significand % scale = 0 then some (signed (significand / scale))
      else none

/-- The remainder of a division that is rounded toward zero, with the sign of the dividend. It is
exact: both magnitudes are whole multiples of the smaller power of two. -/
def remainder (dividend divisor : Float) : Float :=
  match decode dividend, decode divisor with
  | .finite left leftExponent, .finite right rightExponent =>
      if right = 0 then 0.0 / 0.0
      else
        let exponent := min leftExponent rightExponent
        let left := left * Nat.pow 2 (leftExponent - exponent).toNat
        let right := right * Nat.pow 2 (rightExponent - exponent).toNat
        encode (isNegative dividend) (left % right) exponent
  | .finite _ _, .infinite => dividend
  | _, _ => 0.0 / 0.0

def order? (left right : Float) : Option Ordering :=
  if left < right then some .lt
  else if left == right then some .eq
  else if right < left then some .gt
  else none

end Stencil.Binary64
