import Stencil.Entries

/-!
The values that templates work with. A map keeps its entries in key order. A function belongs to
the host: a template can pass it on, compare it and call it, and nothing else.
-/

namespace Stencil

structure Function where
  handle : Nat
  name : String
  deriving DecidableEq, Inhabited

inductive Value where
  | null
  | bool (value : Bool)
  | number (value : Float)
  | text (content : String)
  | array (items : List Value)
  | map (entries : List (String × Value))
  | function (called : Function)
  deriving Inhabited

namespace Value

def isTruthy : Value → Bool
  | .null => false
  | .bool value => value
  | .number value => value != 0.0 && !value.isNaN
  | .text content => content != ""
  | .array _ => true
  | .map _ => true
  | .function _ => true

def typeName : Value → String
  | .null => "null"
  | .bool _ => "boolean"
  | .number _ => "number"
  | .text _ => "string"
  | .array _ => "array"
  | .map _ => "object"
  | .function _ => "function"

end Value

end Stencil
