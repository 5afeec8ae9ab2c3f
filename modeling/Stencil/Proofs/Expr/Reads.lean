import Stencil.Proofs.Diagnostics.Faults
import Stencil.Proofs.Render.FreeNames

/-!
The names that evaluation comes to. An expression fails for want of a name exactly if evaluating it
comes to a variable that the context does not bind, and it never fails for want of a syntax.
-/

namespace Stencil

variable {State : Type}

namespace Expr

mutual

inductive Reads (host : Host State) (context : Context) (name : String) : State → Expr → Prop
  | var {state} : Reads host context name state (.var name)
  | array {state items} : ReadsOfAll host context name state items →
      Reads host context name state (.array items)
  | object {state entries} : ReadsOfEntries host context name state entries →
      Reads host context name state (.object entries)
  | member {state subject key} : Reads host context name state subject →
      Reads host context name state (.attribute subject key)
  | indexed {state subject position} : Reads host context name state subject →
      Reads host context name state (.index subject position)
  | position {state subject position value later} :
      eval host context subject state = (.ok value, later) →
      Reads host context name later position →
      Reads host context name state (.index subject position)
  | callee {state callee arguments} : Reads host context name state callee →
      Reads host context name state (.call callee arguments)
  | argumentOfMethod {state subject key arguments value later} :
      eval host context subject state = (.ok value, later) →
      ReadsOfAll host context name later arguments →
      Reads host context name state (.call (.attribute subject key) arguments)
  | argument {state callee arguments function later} :
      (∀ subject key, callee ≠ .attribute subject key) →
      eval host context callee state = (.ok (.function function), later) →
      ReadsOfAll host context name later arguments →
      Reads host context name state (.call callee arguments)
  | operand {state operator operand} : Reads host context name state operand →
      Reads host context name state (.unary operator operand)
  | left {state operator left right} : Reads host context name state left →
      Reads host context name state (.binary operator left right)
  | right {state operator left right value later} :
      eval host context left state = (.ok value, later) →
      (operator = .both → value.isTruthy = true) → (operator = .either → value.isTruthy = false) →
      Reads host context name later right →
      Reads host context name state (.binary operator left right)
  | condition {state condition consequent alternative} : Reads host context name state condition →
      Reads host context name state (.conditional condition consequent alternative)
  | consequent {state condition consequent alternative value later} :
      eval host context condition state = (.ok value, later) → value.isTruthy = true →
      Reads host context name later consequent →
      Reads host context name state (.conditional condition consequent alternative)
  | alternative {state condition consequent alternative value later} :
      eval host context condition state = (.ok value, later) → value.isTruthy = false →
      Reads host context name later alternative →
      Reads host context name state (.conditional condition consequent alternative)

inductive ReadsOfAll (host : Host State) (context : Context) (name : String) :
    State → List Expr → Prop
  | here {state item items} : Reads host context name state item →
      ReadsOfAll host context name state (item :: items)
  | behind {state item items value later} : eval host context item state = (.ok value, later) →
      ReadsOfAll host context name later items →
      ReadsOfAll host context name state (item :: items)

inductive ReadsOfEntries (host : Host State) (context : Context) (name : String) :
    State → List (String × Expr) → Prop
  | here {state key item entries} : Reads host context name state item →
      ReadsOfEntries host context name state ((key, item) :: entries)
  | behind {state key item entries value later} :
      eval host context item state = (.ok value, later) →
      ReadsOfEntries host context name later entries →
      ReadsOfEntries host context name state ((key, item) :: entries)

end

variable {host : Host State} {context : Context} {name : String}

mutual

theorem Reads.mem_names {state : State} : {expr : Expr} → Reads host context name state expr →
    name ∈ expr.names
  | _, .var => by simp [names]
  | _, .array reads => by simpa [names] using reads.mem_names
  | _, .object reads => by simpa [names] using reads.mem_names
  | _, .member reads => by simpa [names] using reads.mem_names
  | _, .indexed reads => by simp [names, reads.mem_names]
  | _, .position _ reads => by simp [names, reads.mem_names]
  | _, .callee reads => by simp [names, reads.mem_names]
  | _, .argumentOfMethod _ reads => by simp [names, reads.mem_names]
  | _, .argument _ _ reads => by simp [names, reads.mem_names]
  | _, .operand reads => by simpa [names] using reads.mem_names
  | _, .left reads => by simp [names, reads.mem_names]
  | _, .right _ _ _ reads => by simp [names, reads.mem_names]
  | _, .condition reads => by simp [names, reads.mem_names]
  | _, .consequent _ _ reads => by simp [names, reads.mem_names]
  | _, .alternative _ _ reads => by simp [names, reads.mem_names]

theorem ReadsOfAll.mem_names {state : State} : {items : List Expr} →
    ReadsOfAll host context name state items → name ∈ namesOfAll items
  | _, .here reads => by simp [namesOfAll, reads.mem_names]
  | _, .behind _ reads => by simp [namesOfAll, reads.mem_names]

theorem ReadsOfEntries.mem_names {state : State} : {entries : List (String × Expr)} →
    ReadsOfEntries host context name state entries → name ∈ namesOfEntries entries
  | _, .here reads => by simp [namesOfEntries, reads.mem_names]
  | _, .behind _ reads => by simp [namesOfEntries, reads.mem_names]

end

end Expr

namespace Evaluation

variable {Failure α β : Type} {step : Evaluation State Failure α}
  {next : α → Evaluation State Failure β} {state later : State}

theorem bind_of_error {failure : Failure} (failed : step state = (.error failure, later)) :
    (step >>= next) state = (.error failure, later) := by
  rw [bind_run, failed]

theorem fails_bind {failure : Failure} (failed : (step state).1 = .error failure) :
    ((step >>= next) state).1 = .error failure := by
  rw [bind_of_error (Prod.ext failed rfl)]

theorem bind_of_ok {value : α} (answered : step state = (.ok value, later)) :
    (step >>= next) state = next value later := by
  rw [bind_run, answered]

end Evaluation

namespace Expr

open Evaluation

variable {host : Host State} {context : Context} {name : String}

mutual

theorem Reads.fails {state : State} (unbound : context.get? name = none) : {expr : Expr} →
    Reads host context name state expr →
    (eval host context expr state).1 = .error (.unbound name)
  | _, .var => by
      rw [eval, unbound]
      rfl
  | _, .array reads => by
      rw [eval]
      exact fails_bind (reads.fails unbound)
  | _, .object reads => by
      rw [eval]
      exact fails_bind (reads.fails unbound)
  | _, .member reads => by
      rw [eval]
      exact fails_bind (reads.fails unbound)
  | _, .indexed reads => by
      rw [eval]
      exact fails_bind (reads.fails unbound)
  | _, .position answered reads => by
      rw [eval, bind_of_ok answered]
      exact fails_bind (reads.fails unbound)
  | .call callee arguments, .callee reads => by
      by_cases ofMember : ∃ subject key, callee = .attribute subject key
      · obtain ⟨subject, key, rfl⟩ := ofMember
        cases reads with
        | member reads =>
            rw [eval]
            exact fails_bind (reads.fails unbound)
      · rw [eval]
        · exact fails_bind (reads.fails unbound)
        · exact fun subject key same => ofMember ⟨subject, key, same⟩
  | _, .argumentOfMethod answered reads => by
      rw [eval, bind_of_ok answered]
      exact fails_bind (reads.fails unbound)
  | _, .argument plain answered reads => by
      rw [eval, bind_of_ok answered]
      · exact fails_bind (reads.fails unbound)
      · exact plain
  | _, .operand reads => by
      rw [eval]
      exact fails_bind (reads.fails unbound)
  | _, .left reads => by
      rw [eval]
      exact fails_bind (reads.fails unbound)
  | .binary operator _ _, .right answered both either reads => by
      have failed := reads.fails unbound
      rw [eval, bind_of_ok answered]
      cases operator
      case both => simpa only [both rfl, if_true] using failed
      case either => simpa [either rfl] using failed
      all_goals exact fails_bind failed
  | _, .condition reads => by
      rw [eval]
      exact fails_bind (reads.fails unbound)
  | _, .consequent answered truth reads => by
      rw [eval, bind_of_ok answered, if_pos truth]
      exact reads.fails unbound
  | _, .alternative answered truth reads => by
      rw [eval, bind_of_ok answered, if_neg (by simp [truth])]
      exact reads.fails unbound

theorem ReadsOfAll.fails {state : State} (unbound : context.get? name = none) :
    {items : List Expr} → ReadsOfAll host context name state items →
    (evalAll host context items state).1 = .error (.unbound name)
  | _, .here reads => by
      rw [evalAll]
      exact fails_bind (reads.fails unbound)
  | _, .behind answered reads => by
      rw [evalAll, bind_of_ok answered]
      exact fails_bind (reads.fails unbound)

theorem ReadsOfEntries.fails {state : State} (unbound : context.get? name = none) :
    {entries : List (String × Expr)} → ReadsOfEntries host context name state entries →
    (evalEntries host context entries state).1 = .error (.unbound name)
  | _, .here reads => by
      rw [evalEntries]
      exact fails_bind (reads.fails unbound)
  | _, .behind answered reads => by
      rw [evalEntries, bind_of_ok answered]
      exact fails_bind (reads.fails unbound)

end

end Expr

/-- A fault of evaluation: a name that is not bound is one of those that evaluation comes to, and
what is evaluated has been read without a fault. -/
def Fault.IsOfEvaluation (context : Context) (reads : String → Prop) : Fault → Prop
  | .unbound name => reads name ∧ context.get? name = none
  | .malformed _ => False
  | _ => True

theorem Fault.IsOfEvaluation.mono {context : Context} {reads others : String → Prop} {fault : Fault}
    (isOf : fault.IsOfEvaluation context reads) (subset : ∀ name, reads name → others name) :
    fault.IsOfEvaluation context others := by
  cases fault with
  | unbound name => exact ⟨subset name isOf.1, isOf.2⟩
  | malformed fault => exact isOf
  | mistyped fault => trivial
  | refused function message => trivial

namespace Expr

open Evaluation

variable {host : Host State} {context : Context} {reads : String → Prop} {state : State}
  {fault : Fault}

theorem isOfEvaluation_invoke {function : Function} {arguments : List Value}
    (failed : (invoke host function arguments state).1 = .error fault) :
    fault.IsOfEvaluation context reads := by
  rcases called : host.call function arguments state with ⟨answer, later⟩
  rw [invoke, called] at failed
  cases answer with
  | ok value => cases failed
  | error message =>
      cases failed
      trivial

theorem isOfEvaluation_member {subject : Value} {key : String}
    (failed : (member subject key state : Except Fault Value × State).1 = .error fault) :
    fault.IsOfEvaluation context reads := by
  rw [member] at failed
  cases found : subject.member? key with
  | none =>
      rw [found] at failed
      cases failed
      trivial
  | some value =>
      rw [found] at failed
      cases failed

theorem isOfEvaluation_element {subject position : Value}
    (failed : (element subject position state : Except Fault Value × State).1 = .error fault) :
    fault.IsOfEvaluation context reads := by
  rw [element] at failed
  cases found : subject.element? position with
  | none =>
      rw [found] at failed
      cases failed
      trivial
  | some value =>
      rw [found] at failed
      cases failed

section Cases

variable {subject callee left right : Expr} {key : String} {arguments : List Expr}
  {operator : BinaryOp}

theorem isOfEvaluation_methodCall
    (ofSubject : ∀ {fault}, (eval host context subject state).1 = .error fault →
      fault.IsOfEvaluation context fun name => Reads host context name state subject)
    (ofArguments : ∀ later fault, (evalAll host context arguments later).1 = .error fault →
      fault.IsOfEvaluation context fun name => ReadsOfAll host context name later arguments)
    (failed : (eval host context (.call (.attribute subject key) arguments) state).1 =
      .error fault) :
    fault.IsOfEvaluation context fun name =>
      Reads host context name state (.call (.attribute subject key) arguments) := by
  rw [eval] at failed
  rcases bind_fails failed with failed | ⟨receiver, later, answered, failed⟩
  · exact (ofSubject failed).mono fun _ reads => .callee (.member reads)
  rcases bind_fails failed with failed | ⟨values, final, _, failed⟩
  · exact (ofArguments later _ failed).mono fun _ => .argumentOfMethod answered
  rcases bind_fails failed with failed | ⟨found, _, _, failed⟩
  · exact isOfEvaluation_member failed
  cases found with
  | function called => exact isOfEvaluation_invoke failed
  | _ =>
      cases builtIn : receiver.method? key values with
      | none =>
          simp only [builtIn] at failed
          cases failed
          trivial
      | some value =>
          simp only [builtIn] at failed
          cases failed

theorem isOfEvaluation_plainCall (plain : ∀ subject key, callee ≠ .attribute subject key)
    (ofCallee : ∀ {fault}, (eval host context callee state).1 = .error fault →
      fault.IsOfEvaluation context fun name => Reads host context name state callee)
    (ofArguments : ∀ later fault, (evalAll host context arguments later).1 = .error fault →
      fault.IsOfEvaluation context fun name => ReadsOfAll host context name later arguments)
    (failed : (eval host context (.call callee arguments) state).1 = .error fault) :
    fault.IsOfEvaluation context fun name =>
      Reads host context name state (.call callee arguments) := by
  rw [eval] at failed
  · rcases bind_fails failed with failed | ⟨called, later, answered, failed⟩
    · exact (ofCallee failed).mono fun _ => .callee
    cases called with
    | function called =>
        rcases bind_fails failed with failed | ⟨values, final, _, failed⟩
        · exact (ofArguments later _ failed).mono fun _ => .argument plain answered
        · exact isOfEvaluation_invoke failed
    | _ =>
        cases failed
        trivial
  · exact plain

theorem isOfEvaluation_binary
    (ofLeft : ∀ {fault}, (eval host context left state).1 = .error fault →
      fault.IsOfEvaluation context fun name => Reads host context name state left)
    (ofRight : ∀ later fault, (eval host context right later).1 = .error fault →
      fault.IsOfEvaluation context fun name => Reads host context name later right)
    (failed : (eval host context (.binary operator left right) state).1 = .error fault) :
    fault.IsOfEvaluation context fun name =>
      Reads host context name state (.binary operator left right) := by
  rw [eval] at failed
  rcases bind_fails failed with failed | ⟨value, later, answered, failed⟩
  · exact (ofLeft failed).mono fun _ => .left
  cases operator
  case both =>
    cases truth : value.isTruthy with
    | true =>
        simp only [truth, if_true] at failed
        exact (ofRight later _ failed).mono fun _ => .right answered (fun _ => truth) (nofun)
    | false =>
        simp only [truth] at failed
        cases failed
  case either =>
    cases truth : value.isTruthy with
    | true =>
        simp only [truth, if_true] at failed
        cases failed
    | false =>
        simp only [truth] at failed
        exact (ofRight later _ failed).mono fun _ => .right answered (nofun) fun _ => truth
  all_goals
    exact (ofRight later _ (bind_pure_fails failed)).mono fun _ => .right answered (nofun) (nofun)

end Cases

mutual

theorem isOfEvaluation_eval : (expr : Expr) → (state : State) → {fault : Fault} →
    (eval host context expr state).1 = .error fault →
    fault.IsOfEvaluation context fun name => Reads host context name state expr
  | .null, _, _, failed => by
      rw [eval] at failed
      cases failed
  | .bool _, _, _, failed => by
      rw [eval] at failed
      cases failed
  | .number _, _, _, failed => by
      rw [eval] at failed
      cases failed
  | .text _, _, _, failed => by
      rw [eval] at failed
      cases failed
  | .array items, state, _, failed => by
      rw [eval] at failed
      exact (isOfEvaluation_evalAll items state (bind_pure_fails failed)).mono fun _ => .array
  | .object entries, state, _, failed => by
      rw [eval] at failed
      exact (isOfEvaluation_evalEntries entries state (bind_pure_fails failed)).mono fun _ => .object
  | .var name, _, _, failed => by
      rw [eval] at failed
      cases found : context.get? name with
      | none =>
          rw [found] at failed
          cases failed
          exact ⟨.var, found⟩
      | some value =>
          rw [found] at failed
          cases failed
  | .attribute subject key, state, _, failed => by
      rw [eval] at failed
      rcases bind_fails failed with failed | ⟨value, later, answered, failed⟩
      · exact (isOfEvaluation_eval subject state failed).mono fun _ => .member
      · exact isOfEvaluation_member failed
  | .index subject position, state, _, failed => by
      rw [eval] at failed
      rcases bind_fails failed with failed | ⟨value, later, answered, failed⟩
      · exact (isOfEvaluation_eval subject state failed).mono fun _ => .indexed
      · rcases bind_fails failed with failed | ⟨place, final, _, failed⟩
        · exact (isOfEvaluation_eval position later failed).mono fun _ => .position answered
        · exact isOfEvaluation_element failed
  | .call callee arguments, state, _, failed => by
      have ofArguments (later fault) (failed : (evalAll host context arguments later).1 =
          .error fault) := isOfEvaluation_evalAll arguments later failed
      by_cases ofMember : ∃ subject key, callee = .attribute subject key
      · obtain ⟨subject, key, rfl⟩ := ofMember
        exact isOfEvaluation_methodCall (isOfEvaluation_eval subject state) ofArguments failed
      · refine isOfEvaluation_plainCall ?_ (isOfEvaluation_eval callee state) ofArguments failed
        exact fun subject key same => ofMember ⟨subject, key, same⟩
  | .unary operator operand, state, _, failed => by
      rw [eval] at failed
      exact (isOfEvaluation_eval operand state (bind_pure_fails failed)).mono fun _ => .operand
  | .binary _ left right, state, _, failed =>
      isOfEvaluation_binary (isOfEvaluation_eval left state)
        (fun later _ => isOfEvaluation_eval right later) failed
  | .conditional condition consequent alternative, state, _, failed => by
      rw [eval] at failed
      rcases bind_fails failed with failed | ⟨value, later, answered, failed⟩
      · exact (isOfEvaluation_eval condition state failed).mono fun _ => .condition
      · cases truth : value.isTruthy with
        | true =>
            rw [if_pos truth] at failed
            exact (isOfEvaluation_eval consequent later failed).mono fun _ =>
              .consequent answered truth
        | false =>
            rw [if_neg (by simp [truth])] at failed
            exact (isOfEvaluation_eval alternative later failed).mono fun _ =>
              .alternative answered truth

theorem isOfEvaluation_evalAll : (items : List Expr) → (state : State) → {fault : Fault} →
    (evalAll host context items state).1 = .error fault →
    fault.IsOfEvaluation context fun name => ReadsOfAll host context name state items
  | [], _, _, failed => by
      rw [evalAll] at failed
      cases failed
  | item :: items, state, _, failed => by
      rw [evalAll] at failed
      rcases bind_fails failed with failed | ⟨value, later, answered, failed⟩
      · exact (isOfEvaluation_eval item state failed).mono fun _ => .here
      · exact (isOfEvaluation_evalAll items later (bind_pure_fails failed)).mono
          fun _ => .behind answered

theorem isOfEvaluation_evalEntries : (entries : List (String × Expr)) → (state : State) →
    {fault : Fault} → (evalEntries host context entries state).1 = .error fault →
    fault.IsOfEvaluation context fun name => ReadsOfEntries host context name state entries
  | [], _, _, failed => by
      rw [evalEntries] at failed
      cases failed
  | (key, item) :: entries, state, _, failed => by
      rw [evalEntries] at failed
      rcases bind_fails failed with failed | ⟨value, later, answered, failed⟩
      · exact (isOfEvaluation_eval item state failed).mono fun _ => .here
      · exact (isOfEvaluation_evalEntries entries later (bind_pure_fails failed)).mono
          fun _ => .behind answered

end

end Expr

end Stencil
