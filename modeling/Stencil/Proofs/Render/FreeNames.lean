import Stencil.Proofs.Expr.Names
import Stencil.Template

/-!
What a template reads of its context: the names that stand free in it. Contexts that agree on these
names give the same output, or the same fault at the same place, and whatever else they bind is
never looked at.
-/

namespace Stencil

def Context.AgreeOn (names : List String) (first second : Context) : Prop :=
  ∀ name ∈ names, first.get? name = second.get? name

namespace Context

variable {names others : List String} {first second : Context}

theorem agreeOn_append :
    AgreeOn (names ++ others) first second ↔
      AgreeOn names first second ∧ AgreeOn others first second := by
  simp only [AgreeOn, List.mem_append, or_imp, forall_and]

/-- Behind a binding of a name the contexts need not agree on that name. -/
theorem AgreeOn.child {variableName : String}
    (agree : AgreeOn (names.filter fun name => name ≠ variableName) first second) (value : Value) :
    AgreeOn names (first.child variableName value) (second.child variableName value) := by
  intro name member
  rw [get?_child, get?_child]
  by_cases bound : name = variableName
  · rw [if_pos bound, if_pos bound]
  · rw [if_neg bound, if_neg bound]
    apply agree
    simp [member, bound]

end Context

namespace Expr

mutual

def names : Expr → List String
  | .null => []
  | .bool _ => []
  | .number _ => []
  | .text _ => []
  | .array items => namesOfAll items
  | .object entries => namesOfEntries entries
  | .var name => [name]
  | .attribute subject _ => names subject
  | .index subject position => names subject ++ names position
  | .call callee arguments => names callee ++ namesOfAll arguments
  | .unary _ operand => names operand
  | .binary _ left right => names left ++ names right
  | .conditional condition consequent alternative =>
      names condition ++ (names consequent ++ names alternative)

def namesOfAll : List Expr → List String
  | [] => []
  | item :: items => names item ++ namesOfAll items

def namesOfEntries : List (String × Expr) → List String
  | [] => []
  | (_, item) :: entries => names item ++ namesOfEntries entries

end

end Expr

def Expression.names (expression : Expression) : List String :=
  match expression.compiled with
  | .ok compiled => compiled.names
  | .error _ => []

mutual

/-- The names that occur in the expressions of a node outside the bodies of the loops that bind
them. -/
def Node.freeNames : Node → List String
  | .plain _ => []
  | .output expression _ => expression.names
  | .forLoop variableName iterable body _ =>
      iterable.names ++ (Node.allFreeNames body).filter fun name => name ≠ variableName
  | .ifBranch condition body alternatives _ =>
      condition.names ++ (Node.allFreeNames body ++ alternatives.freeNames)

def Node.allFreeNames : List Node → List String
  | [] => []
  | node :: nodes => node.freeNames ++ Node.allFreeNames nodes

def Alternatives.freeNames : Alternatives → List String
  | .none => []
  | .elseBranch body => Node.allFreeNames body
  | .elseIf condition body alternatives _ =>
      condition.names ++ (Node.allFreeNames body ++ alternatives.freeNames)

end

open Context

variable {State : Type} {host : Host State} {first second : Context}

namespace Expr

mutual

theorem eval_congr : (expr : Expr) → AgreeOn expr.names first second →
    eval host first expr = eval host second expr
  | .null, _ => by rw [eval, eval]
  | .bool _, _ => by rw [eval, eval]
  | .number _, _ => by rw [eval, eval]
  | .text _, _ => by rw [eval, eval]
  | .array items, agree => by
      rw [names] at agree
      rw [eval, eval, evalAll_congr items agree]
  | .object entries, agree => by
      rw [names] at agree
      rw [eval, eval, evalEntries_congr entries agree]
  | .var name, agree => by
      rw [eval, eval, agree name (by simp [names])]
  | .attribute subject name, agree => by
      rw [names] at agree
      rw [eval, eval, eval_congr subject agree]
  | .index subject position, agree => by
      rw [names, agreeOn_append] at agree
      rw [eval, eval, eval_congr subject agree.1, eval_congr position agree.2]
  | .call callee arguments, agree => by
      rw [names, agreeOn_append] at agree
      have given := evalAll_congr arguments agree.2
      by_cases member : ∃ subject name, callee = .attribute subject name
      · obtain ⟨subject, name, rfl⟩ := member
        rw [names] at agree
        rw [eval, eval, eval_congr subject agree.1, given]
      · have plain : ∀ subject name, callee ≠ .attribute subject name :=
          fun subject name same => member ⟨subject, name, same⟩
        rw [eval, eval, eval_congr callee agree.1, given]
        · exact plain
        · exact plain
  | .unary operator operand, agree => by
      rw [names] at agree
      rw [eval, eval, eval_congr operand agree]
  | .binary operator left right, agree => by
      rw [names, agreeOn_append] at agree
      rw [eval, eval, eval_congr left agree.1, eval_congr right agree.2]
  | .conditional condition consequent alternative, agree => by
      rw [names, agreeOn_append, agreeOn_append] at agree
      rw [eval, eval, eval_congr condition agree.1, eval_congr consequent agree.2.1,
        eval_congr alternative agree.2.2]

theorem evalAll_congr : (items : List Expr) → AgreeOn (namesOfAll items) first second →
    evalAll host first items = evalAll host second items
  | [], _ => by rw [evalAll, evalAll]
  | item :: items, agree => by
      rw [namesOfAll, agreeOn_append] at agree
      rw [evalAll, evalAll, eval_congr item agree.1, evalAll_congr items agree.2]

theorem evalEntries_congr : (entries : List (String × Expr)) →
    AgreeOn (namesOfEntries entries) first second →
    evalEntries host first entries = evalEntries host second entries
  | [], _ => by rw [evalEntries, evalEntries]
  | (key, item) :: entries, agree => by
      rw [namesOfEntries, agreeOn_append] at agree
      rw [evalEntries, evalEntries, eval_congr item agree.1, evalEntries_congr entries agree.2]

end

end Expr

theorem Expression.evalAt_congr {expression : Expression} (location : Location)
    (agree : AgreeOn expression.names first second) :
    expression.evalAt host first location = expression.evalAt host second location := by
  rw [evalAt, evalAt, eval, eval]
  rw [names] at agree
  cases compiled : expression.compiled with
  | error fault => rfl
  | ok expr =>
      rw [compiled] at agree
      simp only [Expr.eval_congr expr agree]

namespace Node

mutual

theorem render_congr (first second : Context) : (node : Node) →
    AgreeOn node.freeNames first second → render host first node = render host second node
  | .plain text, _ => by rw [render, render]
  | .output expression location, agree => by
      rw [freeNames] at agree
      rw [render, render, expression.evalAt_congr location agree]
  | .forLoop variableName iterable body location, agree => by
      rw [freeNames, agreeOn_append] at agree
      have bodies (item : Value) :
          renderAll host (first.child variableName item) body =
            renderAll host (second.child variableName item) body :=
        renderAll_congr _ _ body (agree.2.child item)
      rw [render, render, iterable.evalAt_congr location agree.1]
      simp only [bodies]
  | .ifBranch condition body alternatives location, agree => by
      rw [freeNames, agreeOn_append, agreeOn_append] at agree
      rw [render, render, condition.evalAt_congr location agree.1,
        renderAll_congr first second body agree.2.1,
        renderAlternatives_congr first second alternatives agree.2.2]

theorem renderAll_congr (first second : Context) : (nodes : List Node) →
    AgreeOn (allFreeNames nodes) first second →
    renderAll host first nodes = renderAll host second nodes
  | [], _ => by rw [renderAll, renderAll]
  | node :: nodes, agree => by
      rw [allFreeNames, agreeOn_append] at agree
      rw [renderAll, renderAll, render_congr first second node agree.1,
        renderAll_congr first second nodes agree.2]

theorem renderAlternatives_congr (first second : Context) : (alternatives : Alternatives) →
    AgreeOn alternatives.freeNames first second →
    renderAlternatives host first alternatives = renderAlternatives host second alternatives
  | .none, _ => by rw [renderAlternatives, renderAlternatives]
  | .elseBranch body, agree => by
      rw [Alternatives.freeNames] at agree
      rw [renderAlternatives, renderAlternatives, renderAll_congr first second body agree]
  | .elseIf condition body alternatives location, agree => by
      rw [Alternatives.freeNames, agreeOn_append, agreeOn_append] at agree
      rw [renderAlternatives, renderAlternatives, condition.evalAt_congr location agree.1,
        renderAll_congr first second body agree.2.1,
        renderAlternatives_congr first second alternatives agree.2.2]

end

theorem evalAt_var {expression : Expression} {name : String} {value : Value} {context : Context}
    (location : Location) (read : expression.compiled = .ok (.var name))
    (found : context.get? name = some value) :
    expression.evalAt host context location = pure value := by
  rw [Expression.evalAt, Expression.eval, read]
  simp only [Expr.eval, found]
  rfl

end Node

open Node in
/-- A template is rendered alike in contexts that agree on the names that stand free in it. In the
body of a loop it does not matter what the contexts bind the variable of the loop to, behind the loop
the variable is what it was, and no name that does not stand free matters anywhere. -/
theorem renderAll_eq_of_agreeOn_freeNames {State : Type} (host : Host State)
    (template : Template) :
    (∀ first second, AgreeOn (allFreeNames template) first second →
      renderAll host first template = renderAll host second template) ∧
    (∀ first second variableName item,
      AgreeOn ((allFreeNames template).filter fun name => name ≠ variableName) first second →
        renderAll host (first.child variableName item) template =
          renderAll host (second.child variableName item) template) ∧
    (∀ context variableName value iterable location shown place,
      context.get? variableName = some value → shown.compiled = .ok (.var variableName) →
        renderAll host context
            [.forLoop variableName iterable template location, .output shown place] = do
          let front ← render host context (.forLoop variableName iterable template location)
          return front ++ value.toText) ∧
    (∀ first second name, name ∉ allFreeNames template →
      (∀ other, other ≠ name → first.get? other = second.get? other) →
        renderAll host first template = renderAll host second template) := by
  refine ⟨?_, ?_, ?_, ?_⟩
  · intro first second agree
    exact renderAll_congr first second template agree
  · intro first second variableName item agree
    exact renderAll_congr _ _ template (agree.child item)
  · intro context variableName value iterable location shown place found read
    have last : render host context (.output shown place) = pure value.toText := by
      rw [render, evalAt_var place read found, pure_bind]
    rw [renderAll, renderAll, renderAll, last]
    simp only [pure_bind, String.append_empty]
  · intro first second name free same
    apply renderAll_congr
    intro other member
    apply same
    rintro rfl
    exact free member

/-- The loop reads `xs` and nothing else, and its variable hides what the contexts bind it to. -/
theorem renderAll_loop_in_two_contexts :
    Node.renderAll Host.none
        (((Context.empty.set "xs" (.array [.bool true])).set "x" .null).set "y" .null)
        [.forLoop "x" (.ofSource "xs") [.output (.ofSource "x") default] default] =
      Node.renderAll Host.none (Context.empty.set "xs" (.array [.bool true]))
        [.forLoop "x" (.ofSource "xs") [.output (.ofSource "x") default] default] := by
  have list : Expr.compile "xs" = .ok (.var "xs") :=
    Expr.compile_name (by decide) (by decide)
  have item : Expr.compile "x" = .ok (.var "x") :=
    Expr.compile_name (by decide) (by decide)
  have free : Node.allFreeNames
      [.forLoop "x" (.ofSource "xs") [.output (.ofSource "x") default] default] = ["xs"] := by
    rw [Expression.ofSource_eq list, Expression.ofSource_eq item]
    rfl
  refine (renderAll_eq_of_agreeOn_freeNames Host.none
    [.forLoop "x" (.ofSource "xs") [.output (.ofSource "x") default] default]).1 _ _ ?_
  rw [free]
  intro name member
  obtain rfl := List.mem_singleton.mp member
  simp [get?_set]

end Stencil
