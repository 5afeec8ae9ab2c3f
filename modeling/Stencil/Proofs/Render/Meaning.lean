import Stencil.Proofs.Expr.Names
import Stencil.Proofs.Expr.Reads
import Stencil.Proofs.Render.Calls
import Stencil.Repeat

/-!
Where an expression has no meaning, because it cannot be read or comes to a name that is not bound.
This is known beforehand: a template whose expressions can all be read never has such a fault in a
context that binds its free names. A repeat without files is one whose iterable has no meaning, or is
an empty array; every other fault of the iterable is reported.
-/

namespace Stencil

def Context.Binds (names : List String) (context : Context) : Prop :=
  ∀ name ∈ names, ∃ value, context.get? name = some value

namespace Context

variable {names others : List String} {context : Context}

theorem binds_append :
    Binds (names ++ others) context ↔ Binds names context ∧ Binds others context := by
  simp only [Binds, List.mem_append, or_imp, forall_and]

theorem Binds.child {variableName : String}
    (binds : Binds (names.filter fun name => name ≠ variableName) context) (item : Value) :
    Binds names (context.child variableName item) := by
  intro name member
  rw [get?_child]
  by_cases bound : name = variableName
  · exact ⟨item, if_pos bound⟩
  · rw [if_neg bound]
    apply binds
    simp [member, bound]

end Context

variable {State : Type} {host : Host State} {context : Context}

theorem Expression.eval_of_ok {expression : Expression} {expr : Expr}
    (read : expression.compiled = .ok expr) :
    expression.eval host context = expr.eval host context := by
  rw [eval, read]

theorem Expression.eval_of_error {expression : Expression} {fault : SyntaxFault} (state : State)
    (read : expression.compiled = .error fault) :
    expression.eval host context state = (.error (.malformed fault), state) := by
  rw [eval, read]
  rfl

theorem Expression.isOfEvaluation {expression : Expression} {expr : Expr} {state : State}
    {fault : Fault} (read : expression.compiled = .ok expr)
    (failed : (expression.eval host context state).1 = .error fault) :
    fault.IsOfEvaluation context fun name => expr.Reads host context name state := by
  rw [eval_of_ok read] at failed
  exact expr.isOfEvaluation_eval state failed

namespace Node

open Context

mutual

theorem Asks.binds {inquiry : Inquiry State} : (node : Node) → (context : Context) →
    (state : State) → context.Binds node.freeNames → Asks host context state node inquiry →
    inquiry.scope.Binds inquiry.expression.names
  | .plain _, _, _, _, asks => nomatch asks
  | .output _ _, _, _, binds, .output => by
      rw [freeNames] at binds
      exact binds
  | .forLoop variableName _ body _, context, state, binds, asks => by
      rw [freeNames, binds_append] at binds
      cases asks with
      | iterable => exact binds.1
      | inLoop _ asks =>
          obtain ⟨item, _, later, inside⟩ := asks.exists_item
          exact AllAsk.binds body _ later (binds.2.child item) inside
  | .ifBranch _ body alternatives _, context, state, binds, asks => by
      rw [freeNames, binds_append, binds_append] at binds
      cases asks with
      | condition => exact binds.1
      | inBranch _ _ asks => exact AllAsk.binds body context _ binds.2.1 asks
      | otherwise _ _ asks => exact Ask.binds alternatives context _ binds.2.2 asks

theorem AllAsk.binds {inquiry : Inquiry State} : (nodes : List Node) → (context : Context) →
    (state : State) → context.Binds (allFreeNames nodes) → AllAsk host context state nodes inquiry →
    inquiry.scope.Binds inquiry.expression.names
  | [], _, _, _, asks => nomatch asks
  | node :: nodes, context, state, binds, asks => by
      rw [allFreeNames, binds_append] at binds
      cases asks with
      | here asks => exact Asks.binds node context state binds.1 asks
      | behind _ asks => exact AllAsk.binds nodes context _ binds.2 asks

theorem Ask.binds {inquiry : Inquiry State} : (alternatives : Alternatives) → (context : Context) →
    (state : State) → context.Binds alternatives.freeNames →
    Alternatives.Ask host context state alternatives inquiry →
    inquiry.scope.Binds inquiry.expression.names
  | .none, _, _, _, asks => nomatch asks
  | .elseBranch body, context, state, binds, .elseBranch asks => by
      rw [Alternatives.freeNames] at binds
      exact AllAsk.binds body context state binds asks
  | .elseIf _ body alternatives _, context, state, binds, asks => by
      rw [Alternatives.freeNames, binds_append, binds_append] at binds
      cases asks with
      | condition => exact binds.1
      | inBranch _ _ asks => exact AllAsk.binds body context _ binds.2.1 asks
      | otherwise _ _ asks => exact Ask.binds alternatives context _ binds.2.2 asks

end

def Readable (template : Template) : Prop :=
  ∀ part ∈ allParts template, ∀ expression location,
    part.inquiry? = some (expression, location) → ∃ expr, expression.compiled = .ok expr

theorem isMeaningless_renderAll {template : Template} {state : State} {error : RenderError}
    (readable : Readable template) (binds : context.Binds (allFreeNames template))
    (failed : (renderAll host context template state).1 = .error error) :
    error.fault.isMeaningless = false := by
  obtain ⟨inquiry, asks, _, fails⟩ := exists_allAsk template context state error failed
  obtain ⟨part, member, same⟩ := AllAsk.askedBy template context state asks
  obtain ⟨expr, read⟩ := readable part member _ _ same
  have isOf := Expression.isOfEvaluation read fails
  cases fault : error.fault with
  | unbound name =>
      rw [fault] at isOf
      obtain ⟨reads, missing⟩ := isOf
      have among : name ∈ inquiry.expression.names := by
        rw [Expression.names, read]
        exact reads.mem_names
      obtain ⟨value, found⟩ := AllAsk.binds template context state binds asks name among
      rw [missing] at found
      cases found
  | malformed own =>
      rw [fault] at isOf
      exact isOf.elim
  | mistyped own => rfl
  | refused function message => rfl

end Node

namespace RepeatSpec

variable {tags : Tags} {load : Loader} {spec : RepeatSpec} {path : Path} {template : Template}
  {state : State}

open Evaluation

theorem items?_of_fault {fault : Fault} {later : State}
    (failed : (Expression.ofSource spec.iterable).eval host context state = (.error fault, later)) :
    spec.items? host context path state =
      if fault.isMeaningless then (.ok none, later)
      else (.error (.render ⟨fault, spec.location path⟩), later) := by
  rw [items?, failed]

theorem items?_of_other {value : Value} {later : State}
    (answered : (Expression.ofSource spec.iterable).eval host context state = (.ok value, later))
    (other : ∀ items, value ≠ .array items) :
    spec.items? host context path state =
      (.error (.render ⟨.mistyped (.notArray spec.iterable value.typeName), spec.location path⟩),
        later) := by
  rw [items?, answered]
  cases value with
  | array items => exact absurd rfl (other items)
  | _ => rfl

theorem render_of_fault {fault : Fault} {later : State}
    (failed : (Expression.ofSource spec.iterable).eval host context state = (.error fault, later)) :
    spec.render host context tags load path template state =
      if fault.isMeaningless then (.ok [], later)
      else (.error (.render ⟨fault, spec.location path⟩), later) := by
  rw [render, bind_run, items?_of_fault failed]
  cases fault.isMeaningless <;> rfl

theorem render_of_other {value : Value} {later : State}
    (answered : (Expression.ofSource spec.iterable).eval host context state = (.ok value, later))
    (other : ∀ items, value ≠ .array items) :
    spec.render host context tags load path template state =
      (.error (.render ⟨.mistyped (.notArray spec.iterable value.typeName), spec.location path⟩),
        later) := by
  rw [render, bind_run, items?_of_other answered other]

theorem mapM_ne_ok_nil {Failure Item α : Type} {item : Item} {items : List Item}
    (step : Item → Evaluation State Failure α) (state : State) :
    ((item :: items).mapM step state).1 ≠ .ok [] := by
  rw [List.mapM_cons, bind_run]
  rcases step item state with ⟨result, middle⟩
  cases result with
  | error failure => exact nofun
  | ok first =>
      dsimp only
      rw [bind_run]
      rcases items.mapM step middle with ⟨others, later⟩
      cases others with
      | error failure => exact nofun
      | ok others => exact nofun

theorem render_of_array {items : List Value} {later : State}
    (answered : (Expression.ofSource spec.iterable).eval host context state =
      (.ok (.array items), later)) :
    (spec.render host context tags load path template state).1 = .ok [] ↔
      items = [] ∧
        ∃ filename, Template.compile tags load (filenameLabel path) spec.filename = .ok filename := by
  have asked : spec.items? host context path state = (.ok (some items), later) := by
    rw [items?, answered]
  rw [render, bind_run, asked]
  dsimp only
  cases Template.compile tags load (filenameLabel path) spec.filename with
  | error error =>
      constructor
      · intro done
        cases done
      · rintro ⟨_, filename, compiled⟩
        cases compiled
  | ok filename =>
      cases items with
      | nil => exact ⟨fun _ => ⟨rfl, filename, rfl⟩, fun _ => rfl⟩
      | cons item items =>
          constructor
          · intro done
            exact absurd done (mapM_ne_ok_nil _ _)
          · rintro ⟨nothing, _⟩
            cases nothing

theorem render_eq_ok_nil_iff :
    (spec.render host context tags load path template state).1 = .ok [] ↔
      (∃ fault, Expr.compile spec.iterable = .error fault) ∨
      (∃ expr name, Expr.compile spec.iterable = .ok expr ∧ expr.Reads host context name state ∧
        context.get? name = none) ∨
      ((∃ later, (Expression.ofSource spec.iterable).eval host context state =
          (.ok (.array []), later)) ∧
        ∃ filename, Template.compile tags load (filenameLabel path) spec.filename = .ok filename) := by
  cases read : Expr.compile spec.iterable with
  | error fault =>
      rw [render_of_fault (Expression.eval_of_error state read)]
      exact ⟨fun _ => .inl ⟨fault, rfl⟩, fun _ => rfl⟩
  | ok expr =>
      have same : (Expression.ofSource spec.iterable).eval host context = expr.eval host context :=
        Expression.eval_of_ok read
      rw [same]
      constructor
      · intro done
        right
        rcases answered : expr.eval host context state with ⟨result, later⟩
        rw [← same] at answered
        cases result with
        | error fault =>
            rw [render_of_fault answered] at done
            have isOf := expr.isOfEvaluation_eval state (by rw [← same, answered])
            cases fault with
            | unbound name => exact .inl ⟨expr, name, rfl, isOf.1, isOf.2⟩
            | malformed own => exact isOf.elim
            | mistyped own => cases done
            | refused function message => cases done
        | ok value =>
            right
            by_cases array : ∃ items, value = .array items
            · obtain ⟨items, rfl⟩ := array
              obtain ⟨rfl, compiled⟩ := (render_of_array answered).mp done
              exact ⟨⟨later, rfl⟩, compiled⟩
            · rw [render_of_other answered fun items same => array ⟨items, same⟩] at done
              cases done
      · rintro (⟨fault, none⟩ | ⟨other, name, this, reads, missing⟩ | ⟨⟨later, answered⟩, compiled⟩)
        · cases none
        · obtain rfl := Except.ok.inj this
          have failed := reads.fails missing
          rw [← same] at failed
          rw [render_of_fault (Prod.ext failed rfl)]
          rfl
        · rw [← same] at answered
          exact (render_of_array answered).mpr ⟨rfl, compiled⟩

end RepeatSpec

open Node in
/-- Evaluation never fails for want of a syntax, and for want of a name only where it comes to one of
the expression's names that is not bound. So a template that can be read and whose free names are
bound has neither fault. A repeat has no files exactly if its iterable has no meaning or is an empty
array and the file name can be compiled; other faults of the iterable, and values that are not arrays,
are reported. -/
theorem meaningless_faults_and_empty_repeats {State : Type} (host : Host State) :
    (∀ context expr state fault, (Expr.eval host context expr state).1 = .error fault →
      (∀ own, fault ≠ .malformed own) ∧
      ∀ name, fault = .unbound name → name ∈ expr.names ∧ context.get? name = none) ∧
    (∀ context template, Readable template → context.Binds (allFreeNames template) →
      ∀ state error, (renderAll host context template state).1 = .error error →
        (∀ name, error.fault ≠ .unbound name) ∧ ∀ own, error.fault ≠ .malformed own) ∧
    ∀ context tags load (spec : RepeatSpec) path template state,
      ((spec.render host context tags load path template state).1 = .ok [] ↔
        (∃ fault, Expr.compile spec.iterable = .error fault) ∨
        (∃ expr name, Expr.compile spec.iterable = .ok expr ∧ expr.Reads host context name state ∧
          context.get? name = none) ∨
        ((∃ later, (Expression.ofSource spec.iterable).eval host context state =
            (.ok (.array []), later)) ∧
          ∃ filename, Template.compile tags load (RepeatSpec.filenameLabel path) spec.filename =
            .ok filename)) ∧
      (∀ fault later,
        (Expression.ofSource spec.iterable).eval host context state = (.error fault, later) →
        (∃ own, fault = .mistyped own) ∨ (∃ function message, fault = .refused function message) →
        spec.render host context tags load path template state =
          (.error (.render ⟨fault, spec.location path⟩), later)) ∧
      ∀ value later,
        (Expression.ofSource spec.iterable).eval host context state = (.ok value, later) →
        (∀ items, value ≠ .array items) →
        spec.render host context tags load path template state =
          (.error (.render ⟨.mistyped (.notArray spec.iterable value.typeName),
            spec.location path⟩), later) := by
  refine ⟨?_, ?_, ?_⟩
  · intro context expr state fault failed
    have isOf := expr.isOfEvaluation_eval state failed
    constructor
    · rintro own rfl
      exact isOf
    · rintro name rfl
      exact ⟨isOf.1.mem_names, isOf.2⟩
  · intro context template readable binds state error failed
    have meaningful := isMeaningless_renderAll readable binds failed
    constructor
    · intro name unbound
      rw [unbound] at meaningful
      cases meaningful
    · intro own malformed
      rw [malformed] at meaningful
      cases meaningful
  · intro context tags load spec path template state
    refine ⟨RepeatSpec.render_eq_ok_nil_iff, ?_, ?_⟩
    · intro fault later failed meaningful
      rw [RepeatSpec.render_of_fault failed]
      rcases meaningful with ⟨own, rfl⟩ | ⟨function, message, rfl⟩ <;> rfl
    · intro value later answered other
      exact RepeatSpec.render_of_other answered other

open Node in
/-- A name that is not bound, a member of null in a template and as an iterable, and a truth value as
an iterable. -/
theorem meaningless_faults_of_null_and_true :
    ("x" ∈ (Expr.var "x").names ∧ Context.get? {} "x" = none) ∧
    (∃ error, (renderAll Host.none {} [.output (.ofSource "null.x") default] ()).1 = .error error ∧
      ∀ name, error.fault ≠ .unbound name) ∧
    RepeatSpec.render Host.none {} {} (fun _ => none) ⟨"null.x", "item", "name"⟩ (.ofString "t") [] () =
      (.error (.render ⟨.mistyped (.memberOfNull "x"), ⟨"t (repeat)", 1, 1, "null.x"⟩⟩), ()) ∧
    RepeatSpec.render Host.none {} {} (fun _ => none) ⟨"true", "item", "name"⟩ (.ofString "t") [] () =
      (.error (.render ⟨.mistyped (.notArray "true" "boolean"), ⟨"t (repeat)", 1, 1, "true"⟩⟩), ()) := by
  have ofNull : Expr.compile "null.x" = .ok (.attribute .null "x") :=
    Expr.compile_of_words
      (by decide +kernel : _ = some [.keyword .nullWord, .symbol .dot, .name "x"]) (by cbv)
  have ofTrue : Expr.compile "true" = .ok (.bool true) :=
    Expr.compile_keyword (by decide) (by decide : _ = some .trueWord)
  obtain ⟨expressions, templates, repeats⟩ := meaningless_faults_and_empty_repeats Host.none
  refine ⟨?_, ?_, ?_, ?_⟩
  · exact (expressions {} (.var "x") () (.unbound "x") rfl).2 "x" rfl
  · have readable : Readable [.output (.ofSource "null.x") default] := by
      intro part member expression location asks
      obtain rfl := List.mem_singleton.mp member
      obtain ⟨rfl, rfl⟩ := Prod.mk.inj (Option.some.inj asks)
      exact ⟨.attribute .null "x", ofNull⟩
    have binds : Context.Binds (allFreeNames [.output (.ofSource "null.x") default]) {} := by
      have none : allFreeNames [.output (.ofSource "null.x") default] = [] := by
        rw [Expression.ofSource_eq ofNull]
        rfl
      rw [none]
      exact fun name member => absurd member List.not_mem_nil
    have failed : (renderAll Host.none {} [.output (.ofSource "null.x") default] ()).1 =
        .error ⟨.mistyped (.memberOfNull "x"), default⟩ := by
      rw [Expression.ofSource_eq ofNull]
      rfl
    exact ⟨_, failed, (templates {} _ readable binds () _ failed).1⟩
  · have failed : Expression.eval Host.none {} (.ofSource "null.x") () =
        (.error (.mistyped (.memberOfNull "x")), ()) := by
      rw [Expression.ofSource_eq ofNull]
      rfl
    exact (repeats {} {} _ ⟨"null.x", "item", "name"⟩ (.ofString "t") [] ()).2.1 _ () failed
      (.inl ⟨_, rfl⟩)
  · have answered : Expression.eval Host.none {} (.ofSource "true") () = (.ok (.bool true), ()) := by
      rw [Expression.ofSource_eq ofTrue]
      rfl
    exact (repeats {} {} _ ⟨"true", "item", "name"⟩ (.ofString "t") [] ()).2.2 _ () answered
      (by rintro items ⟨⟩)

end Stencil
