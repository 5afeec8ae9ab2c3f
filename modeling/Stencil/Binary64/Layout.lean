import Stencil.Binary64.Shortest

/-!
Writing numbers as decimal text. A `Layout` says which decimal exponents are written positionally
and how the rest looks; every number is written with the fewest digits that read back.
-/

namespace Stencil.Binary64

structure Layout where
  positional : Int → Bool
  integralTail : String
  notANumber : String
  infinity : String
  tie : Tie

def positionalText (integralTail : String) (decimal : Decimal) : String :=
  let digits := Nat.toDigits 10 decimal.digits
  if 0 ≤ decimal.exponent then
    String.ofList (digits ++ List.replicate decimal.exponent.toNat '0') ++ integralTail
  else
    let places := (-decimal.exponent).toNat
    let padded := List.replicate (places + 1 - digits.length) '0' ++ digits
    let whole := padded.length - places
    String.ofList (padded.take whole ++ '.' :: padded.drop whole)

def exponentText (decimal : Decimal) (exponent : Int) : String :=
  let sign := if exponent < 0 then "e-" else "e+"
  let mantissa :=
    match Nat.toDigits 10 decimal.digits with
    | [] => []
    | [digit] => [digit]
    | digit :: digits => digit :: '.' :: digits
  String.ofList mantissa ++ sign ++ String.ofList (Nat.toDigits 10 exponent.natAbs)

def Layout.magnitudeText (layout : Layout) (decimal : Decimal) : String :=
  let exponent := decimal.exponent + digitCount decimal.digits - 1
  if layout.positional exponent then positionalText layout.integralTail decimal
  else exponentText decimal exponent

def Layout.text (layout : Layout) (number : Float) : String :=
  let sign := if isNegative number then "-" else ""
  match decode number with
  | .notANumber => layout.notANumber
  | .infinite => sign ++ layout.infinity
  | .finite 0 _ => "0" ++ layout.integralTail
  | .finite significand exponent =>
      sign ++ layout.magnitudeText (shortest layout.tie significand exponent)

end Stencil.Binary64
