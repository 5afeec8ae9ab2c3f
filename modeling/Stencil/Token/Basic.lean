import Stencil.Location

/-!
Tokens are what the parts of a template amount to: plain text, an expression to show, or a control
word with what it controls.
-/

namespace Stencil

inductive TokenKind where
  | plain
  | expression
  | forLoop
  | endFor
  | ifBranch
  | elseIf
  | elseBranch
  | endIf
  deriving DecidableEq, Repr, Inhabited

def TokenKind.text : TokenKind → String
  | .plain => "Plain"
  | .expression => "Expression"
  | .forLoop => "For"
  | .endFor => "Efor"
  | .ifBranch => "If"
  | .elseIf => "Else If"
  | .elseBranch => "Else"
  | .endIf => "Eif"

/-- Plain text is kept as it is; the text of an expression and of an opening control word is
trimmed; the other control words carry no text. -/
structure Token where
  kind : TokenKind
  value : Option String
  location : Location
  deriving DecidableEq, Inhabited

def Token.text (token : Token) : String := token.value.getD ""

end Stencil
