import Stencil.Binary64.Bits
import Stencil.Binary64.Reader
import Stencil.Text.Blank
import Stencil.Value.Basic

/-!
Comparing values. Values are the same when they have the same type and content; numbers, booleans
and texts may also be loosely equal, as numbers; and values are ordered as texts if both are texts
and as numbers otherwise.
-/

namespace Stencil.Value

def textToNumber? (content : String) : Option Float :=
  let trimmed := Text.trim content.toList
  if trimmed.isEmpty then some 0.0 else Binary64.read? trimmed

def toNumber? : Value → Option Float
  | .number value => some value
  | .bool value => some (if value then 1.0 else 0.0)
  | .text content => textToNumber? content
  | _ => none

def numeric : Value → Float
  | .null => 0.0
  | value => value.toNumber?.getD (0.0 / 0.0)

mutual

/-- Whether two values are the same. A function is the same as itself only, and a value that is
not a number is not even the same as itself. -/
def same : Value → Value → Bool
  | .null, .null => true
  | .bool left, .bool right => left == right
  | .number left, .number right => left == right
  | .text left, .text right => left == right
  | .array left, .array right => sameItems left right
  | .map left, .map right => sameEntries left right
  | .function left, .function right => left.handle == right.handle
  | _, _ => false

def sameItems : List Value → List Value → Bool
  | [], [] => true
  | left :: lefts, right :: rights => same left right && sameItems lefts rights
  | _, _ => false

def sameEntries : List (String × Value) → List (String × Value) → Bool
  | [], [] => true
  | (leftKey, left) :: lefts, (rightKey, right) :: rights =>
      leftKey == rightKey && same left right && sameEntries lefts rights
  | _, _ => false

end

def sameNumber (left right : Value) : Bool :=
  match left.toNumber?, right.toNumber? with
  | some left, some right => left == right
  | _, _ => false

/-- Loose equality: null equals null only, two texts or two composite values are compared as they
are, and every other pair of numbers, booleans and texts is compared as numbers. -/
def looselyEqual (left right : Value) : Bool :=
  match left, right with
  | .null, .null => true
  | .null, _ => false
  | _, .null => false
  | .number _, .number _ => sameNumber left right
  | .number _, .bool _ => sameNumber left right
  | .number _, .text _ => sameNumber left right
  | .bool _, .number _ => sameNumber left right
  | .bool _, .bool _ => sameNumber left right
  | .bool _, .text _ => sameNumber left right
  | .text _, .number _ => sameNumber left right
  | .text _, .bool _ => sameNumber left right
  | _, _ => same left right

def textOrder (left right : String) : Ordering :=
  if left < right then .lt else if left = right then .eq else .gt

def order? (left right : Value) : Option Ordering :=
  match left, right with
  | .text left, .text right => some (textOrder left right)
  | left, right => Binary64.order? left.numeric right.numeric

end Stencil.Value
