import Stencil.Binary64.Bits

/-!
The shortest decimal that reads back as a given binary64 number. A decimal reads back as
`significand * 2 ^ exponent` when it lies in the interval of reals that round to that number. On
each decimal grid, coarsest first, the two grid points around the number are tried; the first grid
with a point in the interval decides the number of digits and the nearer point decides the digits.
-/

namespace Stencil.Binary64

def digitCount (number : Nat) : Nat := (Nat.toDigits 10 number).length

def decimalExponent (numerator denominator : Nat) : Int :=
  if denominator ≤ numerator then (digitCount (numerator / denominator) : Int) - 1
  else -(digitCount ((denominator - 1) / numerator) : Int)

structure Decimal where
  digits : Nat
  exponent : Int
  deriving Repr

inductive Tie where
  | up
  | even

structure Rounding where
  lower : Nat
  value : Nat
  upper : Nat
  denominator : Nat
  closed : Bool

/-- Half a unit in the last place on each side, but a quarter below a power of two, where the
numbers below are twice as dense. The ends belong to the interval of an even significand. -/
def Rounding.ofBinary (significand : Nat) (exponent : Int) : Rounding :=
  let below := if significand = Nat.pow 2 52 ∧ -1074 < exponent then 1 else 2
  let shift := exponent - 2
  let scale := Nat.pow 2 shift.toNat
  { lower := (4 * significand - below) * scale
    value := 4 * significand * scale
    upper := (4 * significand + 2) * scale
    denominator := Nat.pow 2 (-shift).toNat
    closed := significand % 2 == 0 }

def Rounding.admits (interval : Rounding) (numerator denominator : Nat) : Bool :=
  let point := numerator * interval.denominator
  if interval.closed then
    interval.lower * denominator ≤ point && point ≤ interval.upper * denominator
  else interval.lower * denominator < point && point < interval.upper * denominator

def Rounding.onGrid? (interval : Rounding) (tie : Tie) (exponent : Int) : Option Decimal :=
  let up := Nat.pow 10 exponent.toNat
  let down := Nat.pow 10 (-exponent).toNat
  let scaled := interval.value * down
  let step := interval.denominator * up
  let floor := scaled / step
  let twice := 2 * (scaled % step)
  let low := interval.admits (floor * up) down
  let high := interval.admits ((floor + 1) * up) down
  let preferHigh : Bool :=
    if twice = step then
      match tie with
      | .up => true
      | .even => floor % 2 == 1
    else decide (step < twice)
  match low, high with
  | false, false => none
  | true, false => some ⟨floor, exponent⟩
  | false, true => some ⟨floor + 1, exponent⟩
  | true, true => some ⟨if preferHigh then floor + 1 else floor, exponent⟩

def Rounding.shortestFrom (interval : Rounding) (tie : Tie) : (grids : Nat) → Int → Decimal
  | 0, exponent => (interval.onGrid? tie exponent).getD ⟨0, 0⟩
  | grids + 1, exponent =>
      match interval.onGrid? tie exponent with
      | some decimal => decimal
      | none => interval.shortestFrom tie grids (exponent - 1)

def Decimal.strip : (steps : Nat) → Decimal → Decimal
  | 0, decimal => decimal
  | steps + 1, decimal =>
      if decimal.digits ≠ 0 ∧ decimal.digits % 10 = 0 then
        strip steps ⟨decimal.digits / 10, decimal.exponent + 1⟩
      else decimal

/-- The shortest decimal for a positive number. Seventeen digits always suffice. -/
def shortest (tie : Tie) (significand : Nat) (exponent : Int) : Decimal :=
  let interval := Rounding.ofBinary significand exponent
  let first := decimalExponent interval.value interval.denominator
  (interval.shortestFrom tie 17 first).strip 20

end Stencil.Binary64
