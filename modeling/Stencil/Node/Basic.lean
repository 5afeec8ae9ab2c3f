import Stencil.Expr.Fault
import Stencil.Location

/-!
Templates as trees. A node is plain text, an expression to show, a loop or a branch; the branches
after the first form a chain that ends with an optional body for when no condition holds.
-/

namespace Stencil

mutual

inductive Node where
  | plain (text : String)
  | output (expression : Expression) (location : Location)
  | forLoop (variableName : String) (iterable : Expression) (body : List Node)
      (location : Location)
  | ifBranch (condition : Expression) (body : List Node) (alternatives : Alternatives)
      (location : Location)

inductive Alternatives where
  | none
  | elseBranch (body : List Node)
  | elseIf (condition : Expression) (body : List Node) (alternatives : Alternatives)
      (location : Location)

end

instance : Inhabited Node := ⟨.plain ""⟩

abbrev Template := List Node

end Stencil
