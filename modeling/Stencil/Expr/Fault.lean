import Stencil.Expr.Grammar

/-!
What can go wrong with an expression, from reading it to calling the host.
-/

namespace Stencil

inductive TypeFault where
  | memberOfNull (name : String)
  | notFunction (description : String)
  | notArray (source typeName : String)

namespace TypeFault

def message : TypeFault → String
  | .memberOfNull name => "cannot read property '" ++ name ++ "' of null"
  | .notFunction description => description ++ " is not a function"
  | .notArray source typeName =>
      "repeat iterable '" ++ source ++ "' is not an array (got " ++ typeName ++ ")"

end TypeFault

inductive Fault where
  | unbound (name : String)
  | malformed (fault : SyntaxFault)
  | mistyped (fault : TypeFault)
  | refused (function message : String)

namespace Fault

def message : Fault → String
  | .unbound name => name ++ " is not defined"
  | .malformed fault => fault.message
  | .mistyped fault => fault.message
  | .refused function message => function ++ ": " ++ message

def isMeaningless : Fault → Bool
  | .unbound _ => true
  | .malformed _ => true
  | .mistyped _ => false
  | .refused _ _ => false

end Fault

/-- An expression as a tag holds it: its text and what reading the text gave. A text that cannot be
read is kept, since the fault matters only where the expression is evaluated. -/
structure Expression where
  source : String
  compiled : Except SyntaxFault Expr
  compiled_eq : compiled = Expr.compile source

namespace Expression

def ofSource (source : String) : Expression := ⟨source, Expr.compile source, rfl⟩

theorem ofSource_eq {source : String} {whole : Expr} (compiled : Expr.compile source = .ok whole) :
    ofSource source = ⟨source, .ok whole, compiled.symm⟩ := by
  rw [ofSource, mk.injEq]
  exact ⟨rfl, compiled⟩

end Expression

end Stencil
