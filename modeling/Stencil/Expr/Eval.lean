import Stencil.Context
import Stencil.Expr.Fault
import Stencil.Value.Operators

/-!
Evaluating expressions. Operands are evaluated from left to right, `&&`, `||` and conditionals
evaluate only what they need, and nothing outside the context can be reached. Calls of functions go
to the host, which may keep a state of its own from call to call.
-/

namespace Stencil

/-- What the host does when one of its functions is called: it answers with a value or a message,
and moves on to its next state. -/
structure Host (State : Type) where
  call : Function → List Value → State → Except String Value × State

def Host.ofAnswers (answer : Function → List Value → Except String Value) : Host Unit where
  call function arguments _ := (answer function arguments, ())

def Host.none : Host Unit := .ofAnswers fun _ _ => .error "no such function"

abbrev Evaluation (State Failure α : Type) := ExceptT Failure (StateM State) α

namespace Expr

variable {State : Type}

def invoke (host : Host State) (function : Function) (arguments : List Value) :
    Evaluation State Fault Value := fun state =>
  match host.call function arguments state with
  | (.ok value, next) => (.ok value, next)
  | (.error message, next) => (.error (.refused function.name message), next)

def member (subject : Value) (name : String) : Evaluation State Fault Value :=
  match subject.member? name with
  | some value => pure value
  | none => throw (.mistyped (.memberOfNull name))

def element (subject position : Value) : Evaluation State Fault Value :=
  match subject.element? position with
  | some value => pure value
  | none => throw (.mistyped (.memberOfNull position.toText))

mutual

def eval (host : Host State) (context : Context) : Expr → Evaluation State Fault Value
  | .null => pure .null
  | .bool value => pure (.bool value)
  | .number value => pure (.number value)
  | .text content => pure (.text content)
  | .array items => return .array (← evalAll host context items)
  | .object entries => return .map (Entries.ofList (← evalEntries host context entries))
  | .var name =>
      match context.get? name with
      | some value => pure value
      | none => throw (.unbound name)
  | .attribute subject name => do member (← eval host context subject) name
  | .index subject position => do
      let subject ← eval host context subject
      let position ← eval host context position
      element subject position
  | .call (.attribute subject name) arguments => do
      let receiver ← eval host context subject
      let arguments ← evalAll host context arguments
      match ← member receiver name with
      | .function function => invoke host function arguments
      | _ =>
          match receiver.method? name arguments with
          | some value => pure value
          | none => throw (.mistyped (.notFunction (description (.attribute subject name))))
  | .call callee arguments => do
      match ← eval host context callee with
      | .function function => invoke host function (← evalAll host context arguments)
      | _ => throw (.mistyped (.notFunction callee.description))
  | .unary operator operand => return .applyUnary operator (← eval host context operand)
  | .binary operator left right => do
      let left ← eval host context left
      match operator with
      | .both => if left.isTruthy then eval host context right else pure left
      | .either => if left.isTruthy then pure left else eval host context right
      | operator => return .applyBinary operator left (← eval host context right)
  | .conditional condition consequent alternative => do
      if (← eval host context condition).isTruthy then eval host context consequent
      else eval host context alternative

def evalAll (host : Host State) (context : Context) :
    List Expr → Evaluation State Fault (List Value)
  | [] => pure []
  | item :: items => do
      let value ← eval host context item
      return value :: (← evalAll host context items)

def evalEntries (host : Host State) (context : Context) :
    List (String × Expr) → Evaluation State Fault (List (String × Value))
  | [] => pure []
  | (key, item) :: entries => do
      let value ← eval host context item
      return (key, value) :: (← evalEntries host context entries)

end

end Expr

def Expression.eval {State : Type} (host : Host State) (context : Context)
    (expression : Expression) : Evaluation State Fault Value :=
  match expression.compiled with
  | .ok compiled => compiled.eval host context
  | .error fault => throw (.malformed fault)

end Stencil
