import Stencil.Expr.Eval
import Stencil.Node.Basic

/-!
The output of a template in a context. A loop renders its body once for each item of an array, in
a context of its own; of a branch, the first body whose condition holds is rendered. A fault is
reported at the tag whose expression it came from.
-/

namespace Stencil

structure RenderError where
  fault : Fault
  location : Location

variable {State : Type}

def Expression.evalAt (host : Host State) (context : Context) (expression : Expression)
    (location : Location) : Evaluation State RenderError Value :=
  (expression.eval host context).adapt fun fault => ⟨fault, location⟩

def Value.loopItems : Value → List Value
  | .array items => items
  | _ => []

namespace Node

mutual

def render (host : Host State) (context : Context) : Node → Evaluation State RenderError String
  | .plain text => pure text
  | .output expression location => return (← expression.evalAt host context location).toText
  | .forLoop variableName iterable body location => do
      let items := (← iterable.evalAt host context location).loopItems
      let parts ← items.mapM fun item => renderAll host (context.child variableName item) body
      return String.join parts
  | .ifBranch condition body alternatives location => do
      if (← condition.evalAt host context location).isTruthy then renderAll host context body
      else renderAlternatives host context alternatives

def renderAll (host : Host State) (context : Context) :
    List Node → Evaluation State RenderError String
  | [] => pure ""
  | node :: nodes => do
      let front ← render host context node
      let back ← renderAll host context nodes
      return front ++ back

def renderAlternatives (host : Host State) (context : Context) :
    Alternatives → Evaluation State RenderError String
  | .none => pure ""
  | .elseBranch body => renderAll host context body
  | .elseIf condition body alternatives location => do
      if (← condition.evalAt host context location).isTruthy then renderAll host context body
      else renderAlternatives host context alternatives

end

end Node

end Stencil
