import Stencil.Proofs.Render.Letters
import Stencil.Proofs.Value.Functions

/-!
Which functions of the host are called. A host can keep a record of its calls without anything else
changing. The record shows that evaluation calls only what it has been given: functions inside the
values of the context, and those inside what earlier calls have answered.
-/

namespace Stencil

variable {State Failure α β : Type}

structure Call where
  function : Function
  arguments : List Value
  answer : Except String Value

def Host.recorded (host : Host State) : Host (State × List Call) where
  call function arguments state :=
    let answered := host.call function arguments state.1
    (answered.1, answered.2, state.2 ++ [⟨function, arguments, answered.1⟩])

/-- The function is held from the start, or a call has answered with a value that it occurs in. -/
def Known (held : Function → Prop) (calls : List Call) (function : Function) : Prop :=
  held function ∨
    ∃ call ∈ calls, ∃ value, call.answer = .ok value ∧ function ∈ value.functions

def Permitted (held : Function → Prop) (calls : List Call) : Prop :=
  ∀ earlier call later, calls = earlier ++ call :: later → Known held earlier call.function

def Fault.ComesFrom (calls : List Call) : Fault → Prop
  | .refused name message =>
      ∃ call ∈ calls, call.function.name = name ∧ call.answer = .error message
  | _ => True

variable {held given others : Function → Prop} {calls : List Call} {function : Function}

theorem Known.append (known : Known held calls function) (more : List Call) :
    Known held (calls ++ more) function := by
  apply known.imp_right
  rintro ⟨call, member, answered⟩
  exact ⟨call, List.mem_append_left more member, answered⟩

theorem permitted_nil : Permitted held [] := by
  intro earlier call later split
  simp at split

theorem Permitted.concat {call : Call} (permitted : Permitted held calls)
    (known : Known held calls call.function) : Permitted held (calls ++ [call]) := by
  intro earlier other later split
  rcases List.eq_nil_or_concat later with rfl | ⟨front, last, rfl⟩
  · obtain ⟨rfl, same⟩ := List.append_inj' split rfl
    obtain rfl := (List.cons.inj same).1
    exact known
  · apply permitted earlier other front
    rw [List.concat_eq_append, ← List.cons_append, ← List.append_assoc] at split
    exact (List.append_inj' split rfl).1

/-- Where nothing is held, there is nothing to begin calling with. -/
theorem Permitted.eq_nil (permitted : Permitted held calls) (nothing : ∀ function, ¬ held function) :
    calls = [] := by
  cases calls with
  | nil => rfl
  | cons call calls =>
      rcases permitted [] call calls rfl with known | ⟨other, member, _⟩
      · exact absurd known (nothing call.function)
      · simp at member

def Settled (held : Function → Prop) (faultOf : Failure → Fault) (functionsOf : α → List Function)
    (calls : List Call) : Except Failure α → Prop
  | .ok value => ∀ function ∈ functionsOf value, Known held calls function
  | .error failure => (faultOf failure).ComesFrom calls

/-- A computation that makes permitted calls only, as long as everything given to it is known; and
the same computation without a record. -/
def Traced (held given : Function → Prop) (faultOf : Failure → Fault)
    (functionsOf : α → List Function) (recorded : Evaluation (State × List Call) Failure α)
    (plain : Evaluation State Failure α) : Prop :=
  ∀ state calls, Permitted held calls → (∀ function, given function → Known held calls function) →
    ∃ result later own, plain state = (result, later) ∧
      recorded (state, calls) = (result, later, calls ++ own) ∧
      Permitted held (calls ++ own) ∧ Settled held faultOf functionsOf (calls ++ own) result

section Steps

variable {faultOf : Failure → Fault} {functionsOf : α → List Function}
  {recorded : Evaluation (State × List Call) Failure α} {plain : Evaluation State Failure α}

theorem Traced.mono (traced : Traced held given faultOf functionsOf recorded plain)
    (subset : ∀ function, given function → others function) :
    Traced held others faultOf functionsOf recorded plain := by
  intro state calls permitted known
  exact traced state calls permitted fun function member => known function (subset function member)

theorem traced_pure {value : α} (known : ∀ function ∈ functionsOf value, given function) :
    Traced held given faultOf functionsOf (pure value : Evaluation (State × List Call) Failure α)
      (pure value) := by
  intro state calls permitted granted
  refine ⟨.ok value, state, [], rfl, ?_, ?_, ?_⟩
  · rw [List.append_nil]
    rfl
  · rwa [List.append_nil]
  · intro function member
    rw [List.append_nil]
    exact granted function (known function member)

theorem traced_throw {failure : Failure} (own : ∀ calls, (faultOf failure).ComesFrom calls) :
    Traced held given faultOf functionsOf
      (throw failure : Evaluation (State × List Call) Failure α) (throw failure) := by
  intro state calls permitted granted
  refine ⟨.error failure, state, [], rfl, ?_, ?_, own _⟩
  · rw [List.append_nil]
    rfl
  · rwa [List.append_nil]

theorem Traced.bind {before : β → List Function}
    {recordedFirst : Evaluation (State × List Call) Failure β}
    {plainFirst : Evaluation State Failure β}
    {recordedNext : β → Evaluation (State × List Call) Failure α}
    {plainNext : β → Evaluation State Failure α}
    (first : Traced held given faultOf before recordedFirst plainFirst)
    (next : ∀ value, Traced held (fun function => given function ∨ function ∈ before value) faultOf
      functionsOf (recordedNext value) (plainNext value)) :
    Traced held given faultOf functionsOf (recordedFirst >>= recordedNext)
      (plainFirst >>= plainNext) := by
  intro state calls permitted granted
  obtain ⟨result, middle, own, ran, traced, allowed, settled⟩ := first state calls permitted granted
  rw [Evaluation.bind_run, Evaluation.bind_run, ran, traced]
  cases result with
  | error failure => exact ⟨.error failure, middle, own, rfl, rfl, allowed, settled⟩
  | ok value =>
      have known (function : Function) (member : given function ∨ function ∈ before value) :
          Known held (calls ++ own) function := by
        rcases member with earlier | fresh
        · exact (granted function earlier).append own
        · exact settled function fresh
      obtain ⟨final, later, more, ranOn, tracedOn, allowedOn, settledOn⟩ :=
        next value middle (calls ++ own) allowed known
      rw [List.append_assoc] at tracedOn allowedOn settledOn
      exact ⟨final, later, own ++ more, ranOn, tracedOn, allowedOn, settledOn⟩

theorem Traced.adapt {Other : Type} {otherFaultOf : Other → Fault} {change : Failure → Other}
    (traced : Traced held given faultOf functionsOf recorded plain)
    (same : ∀ failure, otherFaultOf (change failure) = faultOf failure) :
    Traced held given otherFaultOf functionsOf (recorded.adapt change) (plain.adapt change) := by
  intro state calls permitted granted
  obtain ⟨result, later, own, ran, trace, allowed, settled⟩ := traced state calls permitted granted
  refine ⟨result.mapError change, later, own, ?_, ?_, allowed, ?_⟩
  · rw [Evaluation.adapt_run, ran]
  · rw [Evaluation.adapt_run, trace]
  · cases result with
    | error failure =>
        rw [Except.mapError, Settled, same]
        exact settled
    | ok value => exact settled

end Steps

def Context.Holds (context : Context) (function : Function) : Prop :=
  ∃ name value, context.get? name = some value ∧ function ∈ value.functions

namespace Expr

variable {host : Host State} {context : Context}

theorem traced_invoke {arguments : List Value} (known : given function) :
    Traced held given id Value.functions (invoke host.recorded function arguments)
      (invoke host function arguments) := by
  intro state calls permitted granted
  have called := granted function known
  rw [invoke, invoke]
  simp only [Host.recorded]
  rcases host.call function arguments state with ⟨answer, later⟩
  have allowed : Permitted held (calls ++ [⟨function, arguments, answer⟩]) :=
    permitted.concat called
  cases answer with
  | ok value =>
      refine ⟨.ok value, later, _, rfl, rfl, allowed, ?_⟩
      intro inner member
      exact .inr ⟨_, List.mem_concat_self, value, rfl, member⟩
  | error message =>
      refine ⟨.error _, later, _, rfl, rfl, allowed, ?_⟩
      exact ⟨_, List.mem_concat_self, rfl, rfl⟩

theorem traced_member {subject : Value} {name : String}
    (known : ∀ function ∈ subject.functions, given function) :
    Traced held given id Value.functions
      (member subject name : Evaluation (State × List Call) Fault Value) (member subject name) := by
  rw [member, member]
  cases found : subject.member? name with
  | none => exact traced_throw fun _ => trivial
  | some value =>
      exact traced_pure fun function inside => known function (Value.functions_member? found inside)

theorem traced_element {subject position : Value}
    (known : ∀ function ∈ subject.functions, given function) :
    Traced held given id Value.functions
      (element subject position : Evaluation (State × List Call) Fault Value)
      (element subject position) := by
  rw [element, element]
  cases found : subject.element? position with
  | none => exact traced_throw fun _ => trivial
  | some value =>
      exact traced_pure fun function inside => known function (Value.functions_element? found inside)

section Cases

variable {subject callee left right : Expr} {name : String} {arguments : List Expr}
  {operator : BinaryOp}

theorem traced_methodCall
    (received : Traced held context.Holds id Value.functions (eval host.recorded context subject)
      (eval host context subject))
    (given : Traced held context.Holds id Value.functionsOfItems
      (evalAll host.recorded context arguments) (evalAll host context arguments)) :
    Traced held context.Holds id Value.functions
      (eval host.recorded context (.call (.attribute subject name) arguments))
      (eval host context (.call (.attribute subject name) arguments)) := by
  rw [eval, eval]
  refine received.bind fun receiver => ?_
  refine (given.mono fun _ => .inl).bind fun values => ?_
  refine (traced_member fun _ inside => .inl (.inr inside)).bind fun found => ?_
  cases found with
  | function called => exact traced_invoke (.inr (by simp [Value.functions]))
  | _ =>
      cases builtIn : receiver.method? name values with
      | none => exact traced_throw fun _ => trivial
      | some value => exact traced_pure (by simp [Value.functions_method? builtIn])

theorem traced_plainCall (plain : ∀ subject name, callee ≠ .attribute subject name)
    (answered : Traced held context.Holds id Value.functions (eval host.recorded context callee)
      (eval host context callee))
    (given : Traced held context.Holds id Value.functionsOfItems
      (evalAll host.recorded context arguments) (evalAll host context arguments)) :
    Traced held context.Holds id Value.functions
      (eval host.recorded context (.call callee arguments))
      (eval host context (.call callee arguments)) := by
  rw [eval, eval]
  · refine answered.bind fun called => ?_
    cases called with
    | function called =>
        refine (given.mono fun _ => .inl).bind fun values => ?_
        exact traced_invoke (.inl (.inr (by simp [Value.functions])))
    | _ => exact traced_throw fun _ => trivial
  · exact plain
  · exact plain

theorem traced_binary
    (first : Traced held context.Holds id Value.functions (eval host.recorded context left)
      (eval host context left))
    (second : Traced held context.Holds id Value.functions (eval host.recorded context right)
      (eval host context right)) :
    Traced held context.Holds id Value.functions
      (eval host.recorded context (.binary operator left right))
      (eval host context (.binary operator left right)) := by
  rw [eval, eval]
  refine first.bind fun value => ?_
  have known (function) (held : context.Holds function) :
      context.Holds function ∨ function ∈ value.functions := .inl held
  have second := second.mono known
  cases operator
  case both =>
    dsimp only
    split
    · exact second
    · exact traced_pure fun _ => .inr
  case either =>
    dsimp only
    split
    · exact traced_pure fun _ => .inr
    · exact second
  all_goals
    refine second.bind fun other => traced_pure ?_
    intro function member
    rcases Value.functions_applyBinary member with inside | inside
    · exact .inl (.inr inside)
    · exact .inr inside

end Cases

mutual

theorem traced_eval : (expr : Expr) →
    Traced held context.Holds id Value.functions (eval host.recorded context expr)
      (eval host context expr)
  | .null => by
      rw [eval, eval]
      exact traced_pure (by simp [Value.functions])
  | .bool value => by
      rw [eval, eval]
      exact traced_pure (by simp [Value.functions])
  | .number value => by
      rw [eval, eval]
      exact traced_pure (by simp [Value.functions])
  | .text content => by
      rw [eval, eval]
      exact traced_pure (by simp [Value.functions])
  | .array items => by
      rw [eval, eval]
      refine (traced_evalAll items).bind fun values => traced_pure ?_
      intro function member
      rw [Value.functions] at member
      exact .inr member
  | .object entries => by
      rw [eval, eval]
      refine (traced_evalEntries entries).bind fun values => traced_pure ?_
      intro function member
      exact .inr (Value.functions_ofList member)
  | .var name => by
      rw [eval, eval]
      cases found : context.get? name with
      | none => exact traced_throw fun _ => trivial
      | some value => exact traced_pure fun function inside => ⟨name, value, found, inside⟩
  | .attribute subject name => by
      rw [eval, eval]
      exact (traced_eval subject).bind fun value => traced_member fun _ => .inr
  | .index subject position => by
      rw [eval, eval]
      refine (traced_eval subject).bind fun value => ?_
      refine ((traced_eval position).mono fun _ => .inl).bind fun place => ?_
      exact traced_element fun _ inside => .inl (.inr inside)
  | .call callee arguments => by
      have given := traced_evalAll arguments
      by_cases ofMember : ∃ subject name, callee = .attribute subject name
      · obtain ⟨subject, name, rfl⟩ := ofMember
        exact traced_methodCall (traced_eval subject) given
      · refine traced_plainCall ?_ (traced_eval callee) given
        exact fun subject name same => ofMember ⟨subject, name, same⟩
  | .unary operator operand => by
      rw [eval, eval]
      refine (traced_eval operand).bind fun value => traced_pure ?_
      simp [Value.functions_applyUnary]
  | .binary _ left right => traced_binary (traced_eval left) (traced_eval right)
  | .conditional condition consequent alternative => by
      rw [eval, eval]
      refine (traced_eval condition).bind fun value => ?_
      split
      · exact (traced_eval consequent).mono fun _ => .inl
      · exact (traced_eval alternative).mono fun _ => .inl

theorem traced_evalAll : (items : List Expr) →
    Traced held context.Holds id Value.functionsOfItems (evalAll host.recorded context items)
      (evalAll host context items)
  | [] => by
      rw [evalAll, evalAll]
      exact traced_pure (by simp [Value.functionsOfItems])
  | item :: items => by
      rw [evalAll, evalAll]
      refine (traced_eval item).bind fun value => ?_
      refine ((traced_evalAll items).mono fun _ => .inl).bind fun values => traced_pure ?_
      intro function member
      rw [Value.functionsOfItems, List.mem_append] at member
      exact member.imp_left .inr

theorem traced_evalEntries : (entries : List (String × Expr)) →
    Traced held context.Holds id Value.functionsOfEntries
      (evalEntries host.recorded context entries) (evalEntries host context entries)
  | [] => by
      rw [evalEntries, evalEntries]
      exact traced_pure (by simp [Value.functionsOfEntries])
  | (key, item) :: entries => by
      rw [evalEntries, evalEntries]
      refine (traced_eval item).bind fun value => ?_
      refine ((traced_evalEntries entries).mono fun _ => .inl).bind fun values => traced_pure ?_
      intro function member
      rw [Value.functionsOfEntries, List.mem_append] at member
      exact member.imp_left .inr

end

end Expr

end Stencil
