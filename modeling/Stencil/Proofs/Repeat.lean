import Stencil.Proofs.Expr.Names
import Stencil.Proofs.Outcome
import Stencil.Proofs.Render.Letters
import Stencil.Repeat

/-!
Repeating a template makes one file of each item of an array, and what is in the files is what a loop
over the array gives with the template as its body.
-/

namespace Stencil

variable {Failure Fault α β : Type}

namespace Evaluation

def outcome (step : Evaluation Unit Failure α) : Except Failure α := (step ()).1

theorem outcome_pure (value : α) : (pure value : Evaluation Unit Failure α).outcome = .ok value :=
  rfl

theorem outcome_bind (step : Evaluation Unit Failure α) (next : α → Evaluation Unit Failure β) :
    (step >>= next).outcome = step.outcome >>= fun value => (next value).outcome := by
  rw [outcome, outcome, bind_run]
  rcases step () with ⟨reached, later⟩
  cases reached <;> rfl

theorem outcome_adapt (change : Failure → Fault) (step : Evaluation Unit Failure α) :
    outcome (step.adapt change) = step.outcome.mapError change := rfl

theorem outcome_mapM {Item : Type} (items : List Item) (step : Item → Evaluation Unit Failure α) :
    (items.mapM step).outcome = items.mapM fun item => (step item).outcome := by
  induction items with
  | nil => rfl
  | cons item items ih =>
      simp only [List.mapM_cons, outcome_bind, outcome_pure, ih]
      rfl

end Evaluation

namespace RepeatSpec

open Evaluation

def Iterates (host : Host Unit) (context : Context) (spec : RepeatSpec) (items : List Value) : Prop :=
  ((Expression.ofSource spec.iterable).eval host context).outcome = .ok (.array items)

variable {host : Host Unit} {context : Context} {tags : Tags} {load : Loader} {spec : RepeatSpec}
  {path : Path} {filename template : Template} {items : List Value}

theorem outcome_items? (iterates : spec.Iterates host context items) :
    (spec.items? host context path).outcome = .ok (some items) := by
  rw [Iterates, outcome] at iterates
  rw [outcome, items?]
  rcases evaluated : (Expression.ofSource spec.iterable).eval host context () with ⟨reached, next⟩
  rw [evaluated] at iterates
  obtain rfl : reached = .ok (.array items) := iterates
  rfl

theorem outcome_render (iterates : spec.Iterates host context items)
    (named : Template.compile tags load (filenameLabel path) spec.filename = .ok filename) :
    (spec.render host context tags load path template).outcome =
      items.mapM fun item =>
        (spec.renderItem host context path filename template item).outcome := by
  rw [render, outcome_bind, outcome_items? iterates, Outcome.ok_bind]
  simp only [named]
  exact outcome_mapM _ _

theorem outcome_loop (iterates : spec.Iterates host context items) (location : Location) :
    (Template.render host context
        [.forLoop spec.variableName (.ofSource spec.iterable) template location]).outcome =
      (items.mapM fun item =>
        (template.render host (context.child spec.variableName item)).outcome).map String.join := by
  have array : outcome (((Expression.ofSource spec.iterable).evalAt host context location).adapt
      TemplateError.render) = .ok (.array items) := by
    rw [outcome_adapt, Expression.evalAt, outcome_adapt, show _ = _ from iterates]
    rfl
  simp only [Template.render, Node.renderAll, Node.render, adapt_bind, adapt_mapM, adapt_pure,
    outcome_bind, array, Outcome.ok_bind, outcome_mapM, outcome_pure, Value.loopItems]
  cases items.mapM fun item => outcome ((Node.renderAll host
      (context.child spec.variableName item) template).adapt TemplateError.render) with
  | error failure => rfl
  | ok bodies => exact congrArg Except.ok String.append_empty

theorem outcome_renderItem {item : Value} {name : String}
    (rendered : (filename.render host (context.child spec.variableName item)).outcome = .ok name) :
    (spec.renderItem host context path filename template item).outcome.map (·.body) =
      (template.render host (context.child spec.variableName item)).outcome := by
  simp only [renderItem, outcome_bind, rendered, Outcome.ok_bind, outcome_pure]
  cases (template.render host (context.child spec.variableName item)).outcome <;> rfl

/-- Where every file name can be rendered, a loop over the array gives what is in the files of a
repeat put together, or fails where the repeat fails and has no files. The files are those of the
items one by one, so that they are rearranged, repeated, left out and put behind one another as the
items are. -/
theorem render_agrees_with_loop (answer : Function → List Value → Except String Value)
    (context : Context) (tags : Tags) (load : Loader) (spec : RepeatSpec) (path : Path)
    (filename template : Template) (items : List Value)
    (iterates : spec.Iterates (.ofAnswers answer) context items)
    (named : Template.compile tags load (filenameLabel path) spec.filename = .ok filename)
    (nameable : ∀ item ∈ items, ∃ name, (filename.render (.ofAnswers answer)
      (context.child spec.variableName item)).outcome = .ok name) :
    let repeated (iterable : String) := ({ spec with iterable }.render (.ofAnswers answer) context
      tags load path template).outcome
    (∀ location, (Template.render (.ofAnswers answer) context
        [.forLoop spec.variableName (.ofSource spec.iterable) template location]).outcome =
      (repeated spec.iterable).map fun files => String.join (files.map (·.body))) ∧
    (∀ files, repeated spec.iterable = .ok files →
      items.map (fun item =>
        (spec.renderItem (.ofAnswers answer) context path filename template item).outcome) =
          files.map .ok) ∧
    (∀ iterable others (places : List Nat),
      { spec with iterable }.Iterates (.ofAnswers answer) context others →
      others.map some = places.map (items[·]?) →
      ∀ files, repeated spec.iterable = .ok files →
        ∃ otherFiles, repeated iterable = .ok otherFiles ∧
          otherFiles.map some = places.map (files[·]?)) ∧
    ∀ first second front back,
      { spec with iterable := first }.Iterates (.ofAnswers answer) context front →
      { spec with iterable := second }.Iterates (.ofAnswers answer) context back →
      items = front ++ back →
        repeated spec.iterable = do return (← repeated first) ++ (← repeated second) := by
  intro repeated
  let fileOf (item : Value) :=
    (spec.renderItem (.ofAnswers answer) context path filename template item).outcome
  have repeated_eq : ∀ iterable others,
      { spec with iterable }.Iterates (.ofAnswers answer) context others →
        repeated iterable = others.mapM fileOf :=
    fun _ _ iterates => outcome_render iterates named
  have whole : repeated spec.iterable = items.mapM fileOf := repeated_eq _ _ iterates
  refine ⟨?_, ?_, ?_, ?_⟩
  · intro location
    have bodies : ∀ item ∈ items, (fileOf item).map (·.body) =
        (template.render (.ofAnswers answer) (context.child spec.variableName item)).outcome := by
      intro item member
      obtain ⟨name, rendered⟩ := nameable item member
      exact outcome_renderItem rendered
    rw [outcome_loop iterates, whole, ← Outcome.mapM_congr bodies, ← Outcome.map_mapM]
    cases items.mapM fileOf <;> rfl
  · intro files made
    exact Outcome.mapM_eq_ok_iff.mp (whole.symm.trans made)
  · intro iterable others places otherIterates taken files made
    rw [repeated_eq iterable others otherIterates]
    exact Outcome.exists_mapM_of_places (whole.symm.trans made) taken
  · intro first second front back frontIterates backIterates joined
    rw [whole, repeated_eq _ _ frontIterates, repeated_eq _ _ backIterates, joined,
      List.mapM_append]

theorem render_true_and_false :
    ∃ files, (RepeatSpec.render .none {} {} (fun _ => none)
        ⟨"[true, false]", "x", "[[ x ]].txt"⟩ (.ofString "t.gel")
        [.output (.ofSource "x") default]).outcome = .ok files ∧
      String.join (files.map (·.body)) = "truefalse" := by
  have list : Expr.compile "[true, false]" = .ok (.array [.bool true, .bool false]) :=
    Expr.compile_of_words (by decide +kernel : _ = some [.symbol .openBracket, .keyword .trueWord,
      .symbol .comma, .keyword .falseWord, .symbol .closeBracket]) (by cbv)
  have item : Expr.compile "x" = .ok (.var "x") :=
    Expr.compile_name (by decide) (by decide)
  have iterates : Iterates .none {} ⟨"[true, false]", "x", "[[ x ]].txt"⟩
      [.bool true, .bool false] := by
    rw [Iterates, Expression.ofSource_eq list]
    rfl
  have scanned : Token.scan {} (fun _ => none) (filenameLabel (.ofString "t.gel")) "[[ x ]].txt" =
      .ok [⟨.expression, some "x", ⟨"t.gel (repeat filename)", 1, 1, "[[ x ]].txt"⟩⟩,
        ⟨.plain, some ".txt", ⟨"t.gel (repeat filename)", 1, 8, "[[ x ]].txt"⟩⟩] :=
    Outcome.eq_ok_of_toOption (by decide +kernel)
  have named : Template.compile {} (fun _ => none) (filenameLabel (.ofString "t.gel"))
      "[[ x ]].txt" = .ok [.output (.ofSource "x")
        ⟨"t.gel (repeat filename)", 1, 1, "[[ x ]].txt"⟩, .plain ".txt"] := by
    rw [Template.compile, scanned]
    simp only [Node.parse_eq_ofTokens, Node.ofTokens_plain, Node.ofTokens_output, Node.ofTokens_nil]
    rfl
  have looped : (Template.render .none {} [.forLoop "x" (.ofSource "[true, false]")
      [.output (.ofSource "x") default] default]).outcome = .ok "truefalse" := by
    rw [Expression.ofSource_eq list, Expression.ofSource_eq item]
    rfl
  have nameable : ∀ value ∈ [Value.bool true, .bool false], ∃ name,
      (Template.render .none (Context.child {} "x" value) [.output (.ofSource "x")
        ⟨"t.gel (repeat filename)", 1, 1, "[[ x ]].txt"⟩, .plain ".txt"]).outcome = .ok name := by
    intro value member
    rw [Expression.ofSource_eq item]
    rcases List.mem_pair.mp member with rfl | rfl
    · exact ⟨"true.txt", rfl⟩
    · exact ⟨"false.txt", rfl⟩
  obtain ⟨agrees, -⟩ := render_agrees_with_loop (fun _ _ => .error "no such function") {} {}
    (fun _ => none) ⟨"[true, false]", "x", "[[ x ]].txt"⟩ (.ofString "t.gel") _
    [.output (.ofSource "x") default] _ iterates named nameable
  exact Outcome.map_eq_ok_iff.mp ((agrees default).symm.trans looped)

end RepeatSpec

end Stencil
