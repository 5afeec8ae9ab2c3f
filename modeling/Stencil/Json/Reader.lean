import Stencil.Json.Basic
import Stencil.Json.Raw

/-!
JSON values from their texts. Beyond the grammar, escaped surrogates have to come in pairs, numbers
have to be in range, and arrays and objects nest at most 127 deep.
-/

namespace Stencil.Json

def hexValue (digits : List Char) : Nat :=
  digits.foldl (fun value digit =>
    16 * value +
      (if digit.isDigit then digit.toNat - '0'.toNat else digit.toLower.toNat - 'a'.toNat + 10)) 0

def simpleEscape (escape : Char) : Char :=
  match escape with
  | 'b' => Char.ofNat 8
  | 'f' => Char.ofNat 12
  | 'n' => '\n'
  | 'r' => '\r'
  | 't' => '\t'
  | other => other

def unescape? : List Char → Option (List Char)
  | [] => some []
  | '\\' :: 'u' :: a :: b :: c :: d :: body =>
      let code := hexValue [a, b, c, d]
      if code < 0xD800 ∨ 0xDFFF < code then
        (unescape? body).map fun text => Char.ofNat code :: text
      else if 0xDC00 ≤ code then none
      else
        match body with
        | '\\' :: 'u' :: a :: b :: c :: d :: body =>
            let low := hexValue [a, b, c, d]
            if 0xDC00 ≤ low ∧ low ≤ 0xDFFF then
              (unescape? body).map fun text =>
                Char.ofNat (0x10000 + (code - 0xD800) * 0x400 + (low - 0xDC00)) :: text
            else none
        | _ => none
  | '\\' :: escape :: body => (unescape? body).map fun text => simpleEscape escape :: text
  | character :: body => (unescape? body).map fun text => character :: text

def string? (body : List Char) : Option String := (unescape? body).map String.ofList

def largestSignificand : Nat := UInt64.size - 1

def absorbWhole (significand : Nat) : List Char → Nat × Int
  | [] => (significand, 0)
  | digit :: digits =>
      let next := 10 * significand + Binary64.digitValue digit
      if largestSignificand < next then (significand, digits.length + 1)
      else absorbWhole next digits

def absorbFraction (significand : Nat) (exponent : Int) : List Char → Nat × Int
  | [] => (significand, exponent)
  | digit :: digits =>
      let next := 10 * significand + Binary64.digitValue digit
      if largestSignificand < next then (significand, exponent)
      else absorbFraction next (exponent - 1) digits

def powerOfTen (exponent : Nat) : Float := Float.ofScientific 1 false exponent

def scaleDown : (steps : Nat) → Float → (drop : Nat) → Float
  | 0, value, _ => value
  | steps + 1, value, drop =>
      if drop ≤ 308 then value / powerOfTen drop
      else if value == 0.0 then value
      else scaleDown steps (value / powerOfTen 308) (drop - 308)

/-- `significand * 10 ^ exponent` by one multiplication or by divisions, each of them rounded;
none if the result is infinite. -/
def scale? (significand : Nat) (exponent : Int) : Option Float :=
  let value := Float.ofNat significand
  if exponent < 0 then some (scaleDown 8 value exponent.natAbs)
  else if 308 < exponent then (if significand = 0 then some value else none)
  else
    let scaled := value * powerOfTen exponent.toNat
    if scaled.isInf then none else some scaled

def largestExponent : Nat := 2_147_483_647

def splitPower : List Char → Bool × List Char
  | '-' :: digits => (true, digits)
  | '+' :: digits => (false, digits)
  | digits => (false, digits)

def float? (significand : Nat) (exponent : Int) : List Char → Option Float
  | [] => scale? significand exponent
  | _ :: power =>
      let (negative, digits) := splitPower power
      let stated := Binary64.digitsValue digits
      if largestExponent < stated then
        if significand ≠ 0 ∧ negative = false then none else some 0.0
      else scale? significand (if negative then exponent - stated else exponent + stated)

/-- An integer that fits into 64 bits stays one; the negative zero and every other number becomes
a binary64 number. -/
def number? (text : List Char) : Option Number :=
  let (negative, text) :=
    match text with
    | '-' :: text => (true, text)
    | text => (false, text)
  let whole := text.takeWhile Char.isDigit
  let rest := text.dropWhile Char.isDigit
  let (significand, exponent) := absorbWhole 0 whole
  let signed := fun (value : Float) => if negative then -value else value
  if rest.isEmpty ∧ exponent = 0 then
    if negative = false then some (.integer significand)
    else if significand = 0 ∨ Nat.pow 2 63 < significand then
      some (.float (-(Float.ofNat significand)))
    else some (.integer (-significand))
  else
    let (fraction, power) :=
      match rest with
      | '.' :: rest => (rest.takeWhile Char.isDigit, rest.dropWhile Char.isDigit)
      | rest => ([], rest)
    let (significand, exponent) := absorbFraction significand exponent fraction
    (float? significand exponent power).map fun value => .float (signed value)

def deepest : Nat := 127

mutual

def ofRaw? (levels : Nat) : Raw → Option Json
  | .null => some .null
  | .bool value => some (.bool value)
  | .number text => (number? text).map .number
  | .string body => (string? body).map .string
  | .array items =>
      match levels with
      | 0 => none
      | levels + 1 => (itemsOfRaw? levels items).map .array
  | .object entries =>
      match levels with
      | 0 => none
      | levels + 1 =>
          (entriesOfRaw? levels entries).map fun entries => .object (Entries.ofList entries)

def itemsOfRaw? (levels : Nat) : List Raw → Option (List Json)
  | [] => some []
  | item :: items => do
      let item ← ofRaw? levels item
      let items ← itemsOfRaw? levels items
      return item :: items

def entriesOfRaw? (levels : Nat) : List (List Char × Raw) → Option (List (String × Json))
  | [] => some []
  | (key, value) :: entries => do
      let key ← string? key
      let value ← ofRaw? levels value
      let entries ← entriesOfRaw? levels entries
      return (key, value) :: entries

end

def read? (text : List Char) : Option Json := (Raw.read? text).bind (ofRaw? deepest)

end Stencil.Json
