import Stencil.Binary64.Bits
import Stencil.Json.Basic
import Stencil.Value.Basic

/-!
Values from JSON and back. Every JSON number becomes a binary64 number. On the way back an integral
number below `9e15` in magnitude becomes an integer, and what JSON cannot hold becomes null.
-/

namespace Stencil.Value

def integerLimit : Nat := 9_000_000_000_000_000

def numberToJson (number : Float) : Json :=
  match Binary64.toInt? number with
  | some value =>
      if value.natAbs < integerLimit then .number (.integer value) else .number (.float number)
  | none => if number.isFinite then .number (.float number) else .null

mutual

def ofJson : Json → Value
  | .null => .null
  | .bool value => .bool value
  | .number value => .number value.toFloat
  | .string content => .text content
  | .array items => .array (itemsOfJson items)
  | .object entries => .map (entriesOfJson entries)

def itemsOfJson : List Json → List Value
  | [] => []
  | item :: items => ofJson item :: itemsOfJson items

def entriesOfJson : List (String × Json) → List (String × Value)
  | [] => []
  | (key, value) :: entries => (key, ofJson value) :: entriesOfJson entries

end

mutual

def toJson : Value → Json
  | .null => .null
  | .bool value => .bool value
  | .number value => numberToJson value
  | .text content => .string content
  | .array items => .array (itemsToJson items)
  | .map entries => .object (entriesToJson entries)
  | .function _ => .null

def itemsToJson : List Value → List Json
  | [] => []
  | item :: items => item.toJson :: itemsToJson items

def entriesToJson : List (String × Value) → List (String × Json)
  | [] => []
  | (key, value) :: entries => (key, value.toJson) :: entriesToJson entries

end

end Stencil.Value
