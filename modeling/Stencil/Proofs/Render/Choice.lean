import Stencil.Proofs.Expr.Reads
import Stencil.Proofs.Render.Visits

/-!
The way rendering goes through a branch: conditions are evaluated one after the other, up to the first
that holds, and one body is rendered.
-/

namespace Stencil

variable {State : Type} {host : Host State} {context : Context} {state : State}

open Visit

structure Branch where
  condition : Expression
  location : Location
  body : List Node

namespace Alternatives

def branches : Alternatives → List Branch
  | .none => []
  | .elseBranch _ => []
  | .elseIf condition body alternatives location => ⟨condition, location, body⟩ :: alternatives.branches

def lastBody : Alternatives → List Node
  | .none => []
  | .elseBranch body => body
  | .elseIf _ _ alternatives _ => alternatives.lastBody

end Alternatives

inductive Passes (host : Host State) (context : Context) : State → List Branch → State → Prop
  | nil {start : State} : Passes host context start [] start
  | cons {start middle later : State} {branch branches value} :
      branch.condition.eval host context start = (.ok value, middle) → value.isTruthy = false →
      Passes host context middle branches later →
      Passes host context start (branch :: branches) later

def conditionAt (place : Nat) : Address := List.replicate place .otherwise

def bodyAt (place : Nat) (address : Address) : Address := conditionAt place ++ .body :: address

def conditionsBefore (place : Nat) : List Address := (List.range place).map conditionAt

theorem conditionsBefore_succ (place : Nat) :
    conditionsBefore (place + 1) = [] :: (conditionsBefore place).map (.otherwise :: ·) := by
  rw [conditionsBefore, conditionsBefore, List.range_succ_eq_map, List.map_cons, List.map_map,
    List.map_map]
  rfl

open Node

/-- The conditions of a branch are evaluated up to the first one that holds, whose body is rendered, or
up to the first one that fails; if none does either, the last body is rendered. -/
inductive Choice (host : Host State) (context : Context) (start : State) (branches : List Branch)
    (lastBody : List Node) (outcome : Except RenderError String × State)
    (visited : List Address) : Prop
  | holds {before branch behind middle value later} : branches = before ++ branch :: behind →
      Passes host context start before middle →
      branch.condition.eval host context middle = (.ok value, later) → value.isTruthy = true →
      outcome = renderAll host context branch.body later →
      visited = conditionsBefore (before.length + 1) ++
        (visitsOfAll host context branch.body later).map (bodyAt before.length ·.address) →
      Choice host context start branches lastBody outcome visited
  | fails {before branch behind middle fault later} : branches = before ++ branch :: behind →
      Passes host context start before middle →
      branch.condition.eval host context middle = (.error fault, later) →
      outcome = (.error ⟨fault, branch.location⟩, later) →
      visited = conditionsBefore (before.length + 1) →
      Choice host context start branches lastBody outcome visited
  | passes {later} : Passes host context start branches later →
      outcome = renderAll host context lastBody later →
      visited = conditionsBefore branches.length ++
        (visitsOfAll host context lastBody later).map (bodyAt branches.length ·.address) →
      Choice host context start branches lastBody outcome visited

namespace Choice

theorem addresses_behind (tried place : Nat) (visits : List (Visit State)) :
    [] :: (conditionsBefore tried ++ visits.map (bodyAt place ·.address)).map (.otherwise :: ·) =
      conditionsBefore (tried + 1) ++ visits.map (bodyAt (place + 1) ·.address) := by
  rw [conditionsBefore_succ, List.map_append, List.map_map, List.cons_append]
  rfl

/-- Behind a condition that does not hold, the choice is among the other branches. -/
theorem behind {branch : Branch} {branches : List Branch} {lastBody : List Node}
    {outcome : Except RenderError String × State} {visited : List Address} {value : Value}
    {start middle : State} (answered : branch.condition.eval host context start = (.ok value, middle))
    (fails : value.isTruthy = false)
    (choice : Choice host context middle branches lastBody outcome visited) :
    Choice host context start (branch :: branches) lastBody outcome
      ([] :: visited.map (.otherwise :: ·)) := by
  cases choice with
  | holds split passes found truth rendered reached =>
      refine .holds (congrArg (branch :: ·) split) (.cons answered fails passes) found truth rendered ?_
      rw [reached, addresses_behind]
      rfl
  | fails split passes failed rendered reached =>
      refine .fails (congrArg (branch :: ·) split) (.cons answered fails passes) failed rendered ?_
      rw [reached, ← conditionsBefore_succ]
      rfl
  | passes passes rendered reached =>
      refine .passes (.cons answered fails passes) rendered ?_
      rw [reached, addresses_behind]
      rfl

theorem last {alternatives : Alternatives} {body : List Node} {start : State}
    (rendered : renderAlternatives host context alternatives = renderAll host context body)
    (reached : (alternatives.visits host context start).map Visit.address =
      (visitsOfAll host context body start).map (.body :: ·.address)) :
    Choice host context start [] body (renderAlternatives host context alternatives start)
      ((alternatives.visits host context start).map Visit.address) :=
  .passes .nil (congrFun rendered start) reached

end Choice

theorem Alternatives.choice : (alternatives : Alternatives) → (start : State) →
    Choice host context start alternatives.branches alternatives.lastBody
      (renderAlternatives host context alternatives start)
      ((alternatives.visits host context start).map Visit.address)
  | .none, start => by
      refine Choice.last ?_ ?_
      · rw [renderAlternatives, lastBody, renderAll]
      · rw [visits, lastBody, visitsOfAll, List.map_nil, List.map_nil]
  | .elseBranch body, start => by
      refine Choice.last ?_ ?_
      · rw [renderAlternatives, lastBody]
      · rw [visits, lastBody, List.map_map]
        rfl
  | .elseIf condition body alternatives location, start => by
      rw [branches, lastBody, renderAlternatives, visits, List.map_cons]
      rcases outcome : condition.eval host context start with ⟨result, middle⟩
      cases result with
      | error fault =>
          have failed : condition.evalAt host context location start =
              (.error ⟨fault, location⟩, middle) := by
            rw [Expression.evalAt_run, outcome]
            rfl
          rw [Evaluation.bind_of_error failed, after_of_error failed]
          exact .fails (List.nil_append _).symm .nil outcome rfl rfl
      | ok value =>
          have answered : condition.evalAt host context location start = (.ok value, middle) :=
            Expression.evalAt_of_eval outcome
          rw [Evaluation.bind_of_ok answered, after_of_ok answered]
          by_cases truth : value.isTruthy = true
          · rw [if_pos truth, if_pos truth, List.map_map]
            exact .holds (List.nil_append _).symm .nil outcome truth rfl rfl
          · rw [if_neg truth, if_neg truth, List.map_map]
            have others := Alternatives.choice alternatives middle
            have choice : Choice host context start
                (⟨condition, location, body⟩ :: alternatives.branches) alternatives.lastBody _ _ :=
              others.behind outcome (Bool.eq_false_iff.mpr truth)
            rwa [List.map_map] at choice

/-- A branch goes through its conditions like an `else if` with the same alternatives. -/
theorem Node.choice (condition : Expression) (body : List Node) (alternatives : Alternatives)
    (location : Location) (start : State) :
    Choice host context start (⟨condition, location, body⟩ :: alternatives.branches)
      alternatives.lastBody
      (render host context (.ifBranch condition body alternatives location) start)
      (((Node.ifBranch condition body alternatives location).visits host context start).map
        Visit.address) := by
  rw [render, visits]
  exact Alternatives.choice (.elseIf condition body alternatives location) start

end Stencil
