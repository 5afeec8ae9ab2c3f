import Stencil.Proofs.Blocks.Derivation
import Stencil.Proofs.Expr.Names
import Stencil.Proofs.Render.FreeNames
import Stencil.Proofs.Render.Meaning

/-!
Loop variables in the bodies of loops. Every name may stand in a `for` tag, but four of them are
keywords to an expression, which reads their own values and never the item that they are bound to.
-/

namespace Stencil

def Keyword.value : Keyword → Value
  | .trueWord => .bool true
  | .falseWord => .bool false
  | .nullWord => .null
  | .undefinedWord => .null

def readVariable (variableName : String) (item : Value) : Value :=
  match Keyword.ofText? variableName with
  | none => item
  | some word => word.value

theorem readVariable_free {variableName : String} (free : Keyword.ofText? variableName = none)
    (item : Value) : readVariable variableName item = item := by
  rw [readVariable, free]

theorem readVariable_keyword {variableName : String} {word : Keyword}
    (reserved : Keyword.ofText? variableName = some word) (item : Value) :
    readVariable variableName item = word.value := by
  rw [readVariable, reserved]

section Loop

variable {State : Type} (host : Host State) {text variableName iterable : String}

theorem isName_of_splitFor? (split : Node.splitFor? text = some (variableName, iterable)) :
    Text.isName variableName.toList = true := by
  obtain ⟨_, _, _, _, named, rfl, _⟩ := splitFor?_eq_some_iff.mp split
  rwa [String.toList_ofList]

theorem eval_loopVariable (split : Node.splitFor? text = some (variableName, iterable))
    (context : Context) (item : Value) :
    (Expression.ofSource variableName).eval host (context.child variableName item) =
      pure (readVariable variableName item) := by
  have named := isName_of_splitFor? split
  cases reserved : Keyword.ofText? variableName with
  | none =>
      rw [Expression.eval_of_ok (Expr.compile_name named reserved), readVariable_free reserved,
        Expr.eval, Context.get?_child, if_pos rfl]
  | some word =>
      rw [Expression.eval_of_ok (Expr.compile_keyword named reserved),
        readVariable_keyword reserved]
      cases word <;> rfl

theorem renderAll_loopVariable (split : Node.splitFor? text = some (variableName, iterable))
    (context : Context) (item : Value) (place : Location) :
    Node.renderAll host (context.child variableName item)
        [.output (.ofSource variableName) place] =
      pure (readVariable variableName item).toText := by
  have value : (Expression.ofSource variableName).evalAt host
      (context.child variableName item) place = pure (readVariable variableName item) := by
    rw [Expression.evalAt, eval_loopVariable host split]
    rfl
  rw [Node.renderAll, Node.renderAll, Node.render, value]
  simp

theorem render_loopVariable (split : Node.splitFor? text = some (variableName, iterable))
    {context : Context} {state later : State} {items : List Value}
    (answered : (Expression.ofSource iterable).eval host context state =
      (.ok (.array items), later)) (location place : Location) :
    Node.render host context
        (.forLoop variableName (.ofSource iterable)
          [.output (.ofSource variableName) place] location) state =
      (.ok (String.join (items.map fun item => (readVariable variableName item).toText)),
        later) := by
  rw [Node.render, Evaluation.bind_run, Expression.evalAt, Evaluation.adapt_run, answered]
  simp only [renderAll_loopVariable host split, List.mapM_pure]
  rfl

end Loop

/-- How the variable of a loop is read in the body. If it is not a keyword, it is a name to an
expression as well, its value is the item that the loop has come to, and a loop that only shows its
variable shows the items one after the other. If it is a keyword, it is not a name to an expression,
which has the value of the keyword whatever the variable is bound to. -/
theorem loopVariable_read_unless_keyword {State : Type} (host : Host State)
    {text variableName iterable : String}
    (split : Node.splitFor? text = some (variableName, iterable)) :
    (Lexeme.readAll? variableName.toList = some [.name variableName] ↔
      Keyword.ofText? variableName = none) ∧
    (Keyword.ofText? variableName = none →
      Expr.compile variableName = .ok (.var variableName) ∧
      (∀ (context : Context) (item : Value), (Expression.ofSource variableName).eval host
        (context.child variableName item) = pure item) ∧
      ∀ (context : Context) (state later : State) (items : List Value) (location place : Location),
        (Expression.ofSource iterable).eval host context state = (.ok (.array items), later) →
          Node.render host context
              (.forLoop variableName (.ofSource iterable)
                [.output (.ofSource variableName) place] location) state =
            (.ok (String.join (items.map Value.toText)), later)) ∧
    (∀ word : Keyword, Keyword.ofText? variableName = some word →
      Expr.compile variableName = .ok word.literal ∧
      ∀ (context : Context) (item : Value), (Expression.ofSource variableName).eval host
        (context.child variableName item) = pure word.value) := by
  have named := isName_of_splitFor? split
  refine ⟨?_, ?_, ?_⟩
  · rw [Lexeme.readAll?_eq_name_iff]
    exact and_iff_right named
  · intro free
    refine ⟨Expr.compile_name named free, ?_, ?_⟩
    · intro context item
      rw [eval_loopVariable host split, readVariable_free free]
    · intro context state later items location place answered
      rw [render_loopVariable host split answered]
      simp only [readVariable_free free]
  · intro word reserved
    refine ⟨Expr.compile_keyword named reserved, ?_⟩
    intro context item
    rw [eval_loopVariable host split, readVariable_keyword reserved]

/-- A loop over two texts shows both if its variable is `x`, and neither if it is `null`. -/
theorem loopVariable_read_of_x_and_null :
    let context := Context.empty.child "xs" (.array [.text "a", .text "b"])
    Node.render Host.none context
        (.forLoop "x" (.ofSource "xs") [.output (.ofSource "x") default] default) () =
      (.ok "ab", ()) ∧
    (Expression.ofSource "null").eval Host.none (context.child "null" (.text "a")) =
      pure .null := by
  intro context
  have name : Node.splitFor? "x in xs" = some ("x", "xs") := by decide +kernel
  have keyword : Node.splitFor? "null in xs" = some ("null", "xs") := by decide +kernel
  have answered : (Expression.ofSource "xs").eval Host.none context () =
      (.ok (.array [.text "a", .text "b"]), ()) := by
    rw [Expression.eval_of_ok (Expr.compile_name (by decide) (by decide))]
    rfl
  exact ⟨((loopVariable_read_unless_keyword Host.none name).2.1 (by decide)).2.2
      context () () _ default default answered,
    ((loopVariable_read_unless_keyword Host.none keyword).2.2 .nullWord (by decide)).2 context _⟩

/-- A `for` tag may have `true` as its variable, and the item cannot be read in the body. -/
theorem loopVariable_true_unread :
    let context := Context.empty.child "xs" (.array [.number 0.0])
    Node.splitFor? "true in xs" = some ("true", "xs") ∧
      (Expression.ofSource "xs").eval Host.none context () = (.ok (.array [.number 0.0]), ()) ∧
      (Expression.ofSource "true").eval Host.none (context.child "true" (.number 0.0)) () ≠
        (.ok (.number 0.0), ()) := by
  intro context
  have split : Node.splitFor? "true in xs" = some ("true", "xs") := by decide +kernel
  have answered : (Expression.ofSource "xs").eval Host.none context () =
      (.ok (.array [.number 0.0]), ()) := by
    rw [Expression.eval_of_ok (Expr.compile_name (by decide) (by decide))]
    rfl
  have read : readVariable "true" (.number 0.0) = .bool true := rfl
  refine ⟨split, answered, ?_⟩
  rw [eval_loopVariable Host.none split, read]
  intro same
  cases same

end Stencil
