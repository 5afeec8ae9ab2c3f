import Stencil.Expr.Basic
import Stencil.Text.Case
import Stencil.Text.Search
import Stencil.Value.Compare
import Stencil.Value.Text

/-!
What operators, members, indices and built-in methods yield. None of this needs the host.
-/

namespace Stencil.Value

def add (left right : Value) : Value :=
  match left, right with
  | .number _, .number _ => .number (left.numeric + right.numeric)
  | .number _, .bool _ => .number (left.numeric + right.numeric)
  | .number _, .null => .number (left.numeric + right.numeric)
  | .bool _, .number _ => .number (left.numeric + right.numeric)
  | .bool _, .bool _ => .number (left.numeric + right.numeric)
  | .bool _, .null => .number (left.numeric + right.numeric)
  | .null, .number _ => .number (left.numeric + right.numeric)
  | .null, .bool _ => .number (left.numeric + right.numeric)
  | .null, .null => .number (left.numeric + right.numeric)
  | _, _ => .text (left.toText ++ right.toText)

def applyUnary (operator : UnaryOp) (operand : Value) : Value :=
  match operator with
  | .not => .bool (!operand.isTruthy)
  | .negate => .number (-operand.numeric)
  | .plus => .number operand.numeric

def applyBinary (operator : BinaryOp) (left right : Value) : Value :=
  match operator with
  | .add => left.add right
  | .subtract => .number (left.numeric - right.numeric)
  | .multiply => .number (left.numeric * right.numeric)
  | .divide => .number (left.numeric / right.numeric)
  | .remainder => .number (Binary64.remainder left.numeric right.numeric)
  | .same => .bool (left.same right)
  | .notSame => .bool (!left.same right)
  | .equal => .bool (left.looselyEqual right)
  | .notEqual => .bool (!left.looselyEqual right)
  | .less => .bool (left.order? right == some .lt)
  | .lessEqual => .bool (left.order? right == some .lt || left.order? right == some .eq)
  | .greater => .bool (left.order? right == some .gt)
  | .greaterEqual => .bool (left.order? right == some .gt || left.order? right == some .eq)
  | .both => if left.isTruthy then right else left
  | .either => if left.isTruthy then left else right

def member? (subject : Value) (name : String) : Option Value :=
  match subject with
  | .null => none
  | .map entries => some ((Entries.find? name entries).getD .null)
  | .array items => some (if name = "length" then .number (Float.ofNat items.length) else .null)
  | .text content =>
      some (if name = "length" then .number (Float.ofNat content.toList.length) else .null)
  | _ => some .null

def position? (number : Float) : Option Nat :=
  match Binary64.toInt? number with
  | some (.ofNat position) => some position
  | _ => none

def element? (subject position : Value) : Option Value :=
  match subject, position with
  | .array items, .number value =>
      some (((position? value).bind (items[·]?)).getD .null)
  | .text content, .number value =>
      some ((((position? value).bind (content.toList[·]?)).map fun character =>
        .text (String.singleton character)).getD .null)
  | subject, position => subject.member? position.toText

def firstText (arguments : List Value) : List Char :=
  ((arguments.head?.map toText).getD "").toList

def method? (receiver : Value) (name : String) (arguments : List Value) : Option Value :=
  match receiver with
  | .text content =>
      if name = "toUpperCase" then
        some (.text (String.ofList (Text.toCapitals content.toList)))
      else if name = "toLowerCase" then
        some (.text (String.ofList (Text.toSmalls content.toList)))
      else if name = "trim" then some (.text (String.ofList (Text.trim content.toList)))
      else if name = "includes" then
        some (.bool (Text.contains (firstText arguments) content.toList))
      else if name = "startsWith" then
        some (.bool (Text.startsWith (firstText arguments) content.toList))
      else if name = "endsWith" then
        some (.bool (Text.endsWith (firstText arguments) content.toList))
      else none
  | .array items =>
      if name = "join" then
        let separator :=
          match arguments with
          | [] => ","
          | .null :: _ => ","
          | argument :: _ => argument.toText
        some (.text (separator.intercalate (itemTexts items)))
      else if name = "includes" then
        some (.bool (items.any fun item => item.same (arguments.head?.getD .null)))
      else none
  | _ => none

end Stencil.Value
