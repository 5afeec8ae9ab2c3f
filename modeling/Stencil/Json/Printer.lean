import Stencil.Json.Basic
import Stencil.Binary64.Layout

/-!
The compact text of a JSON value. Numbers have the fewest digits that read back, positionally for
decimal exponents from -5 to 15; what is not a finite number is written as `null`.
-/

namespace Stencil.Json

def layout : Binary64.Layout where
  positional exponent := -5 ≤ exponent && exponent ≤ 15
  integralTail := ".0"
  notANumber := "null"
  infinity := "null"
  tie := .even

def Number.text : Number → String
  | .integer value => toString value
  | .float value =>
      if value.isFinite then
        (if value == 0.0 ∧ Binary64.isNegative value then "-" else "") ++ layout.text value
      else "null"

def hexDigit (value : Nat) : Char := (Nat.digitChar value)

def escape (character : Char) : List Char :=
  match character with
  | '"' => ['\\', '"']
  | '\\' => ['\\', '\\']
  | '\n' => ['\\', 'n']
  | '\r' => ['\\', 'r']
  | '\t' => ['\\', 't']
  | other =>
      if other.toNat = 8 then ['\\', 'b']
      else if other.toNat = 12 then ['\\', 'f']
      else if other.toNat < 0x20 then
        ['\\', 'u', '0', '0', hexDigit (other.toNat / 16), hexDigit (other.toNat % 16)]
      else [other]

def quote (text : String) : String :=
  String.ofList ('"' :: (text.toList.flatMap escape ++ ['"']))

mutual

def text : Json → String
  | .null => "null"
  | .bool value => if value then "true" else "false"
  | .number value => value.text
  | .string text => quote text
  | .array items => "[" ++ ",".intercalate (itemTexts items) ++ "]"
  | .object entries => "\x7b" ++ ",".intercalate (entryTexts entries) ++ "\x7d"

def itemTexts : List Json → List String
  | [] => []
  | item :: items => item.text :: itemTexts items

def entryTexts : List (String × Json) → List String
  | [] => []
  | (key, value) :: entries => (quote key ++ ":" ++ value.text) :: entryTexts entries

end

end Stencil.Json
