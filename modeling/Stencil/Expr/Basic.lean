import Stencil.Expr.Lexeme

/-!
Expressions: literals, names, members, calls and operators. Parentheses leave no trace in an
expression, and an object literal keeps its entries as they are written.
-/

namespace Stencil

inductive UnaryOp where
  | not | negate | plus
  deriving DecidableEq, Repr

inductive BinaryOp where
  | add | subtract | multiply | divide | remainder
  | equal | notEqual | same | notSame
  | less | lessEqual | greater | greaterEqual
  | both | either
  deriving DecidableEq, Repr

inductive Expr where
  | null
  | bool (value : Bool)
  | number (value : Float)
  | text (content : String)
  | array (items : List Expr)
  | object (entries : List (String × Expr))
  | var (name : String)
  | attribute (subject : Expr) (name : String)
  | index (subject : Expr) (position : Expr)
  | call (callee : Expr) (arguments : List Expr)
  | unary (operator : UnaryOp) (operand : Expr)
  | binary (operator : BinaryOp) (left : Expr) (right : Expr)
  | conditional (condition : Expr) (consequent : Expr) (alternative : Expr)
  deriving Inhabited

namespace UnaryOp

def ofSymbol? : Symbol → Option UnaryOp
  | .bang => some .not
  | .minus => some .negate
  | .plus => some .plus
  | _ => none

end UnaryOp

namespace BinaryOp

def symbol : BinaryOp → Symbol
  | .add => .plus
  | .subtract => .minus
  | .multiply => .star
  | .divide => .slash
  | .remainder => .percent
  | .equal => .equal
  | .notEqual => .notEqual
  | .same => .same
  | .notSame => .notSame
  | .less => .less
  | .lessEqual => .lessEqual
  | .greater => .greater
  | .greaterEqual => .greaterEqual
  | .both => .both
  | .either => .either

def text (operator : BinaryOp) : String := String.ofList operator.symbol.chars

def level : BinaryOp → Nat
  | .multiply | .divide | .remainder => 1
  | .add | .subtract => 2
  | .less | .lessEqual | .greater | .greaterEqual => 3
  | .equal | .notEqual | .same | .notSame => 4
  | .both => 5
  | .either => 6

def all : List BinaryOp := [
  .add, .subtract, .multiply, .divide, .remainder, .equal, .notEqual, .same, .notSame,
  .less, .lessEqual, .greater, .greaterEqual, .both, .either]

def ofSymbol? (level : Nat) (symbol : Symbol) : Option BinaryOp :=
  all.find? fun operator => operator.level == level && operator.symbol == symbol

end BinaryOp

namespace Expr

def description : Expr → String
  | .var name => name
  | .attribute subject name => subject.description ++ "." ++ name
  | .index subject _ => subject.description ++ "[...]"
  | .call callee _ => callee.description ++ "(...)"
  | _ => "expression"

end Expr

end Stencil
