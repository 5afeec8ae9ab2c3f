import Mathlib.Data.List.Basic
import Stencil.Proofs.Blocks.Ranges

/-!
One call of the block parser, with everything it is given made explicit: it asks for tokens by their
positions and for the nodes of other ranges, and may be refused either. The tags that divide a branch
are kept as the call finds them, its `else if` tags apart from its `else` tag, and where each section
ends is searched for among them. The sections of a branch cover its range.
-/

namespace Stencil.Node

open Outcome

inductive Halt where
  | refused
  | fault (error : BlockError)

structure Access where
  token : (index : Nat) → Except Halt Token
  nodes : (start stop : Nat) → Except Halt (List Node)

structure Dividers where
  elseIfs : List Nat
  elseMark : Option Nat
  close : Nat

structure Stretch where
  tag : Nat
  start : Nat
  stop : Nat
  deriving DecidableEq

def Stretch.positions (stretch : Stretch) : List Nat :=
  stretch.tag :: List.range' stretch.start (stretch.stop - stretch.start)

namespace Dividers

def marks (dividers : Dividers) : List Nat := dividers.elseIfs ++ dividers.elseMark.toList

def boundaryAfter (dividers : Dividers) (position : Nat) : Nat :=
  ((dividers.elseIfs.find? (position < ·)).or
    (dividers.elseMark.filter (position < ·))).getD dividers.close

def stretches (dividers : Dividers) (opener : Nat) : List Stretch :=
  ⟨opener, opener + 1, dividers.boundaryAfter opener⟩ ::
    (dividers.elseIfs.map (fun mark => ⟨mark, mark + 1, dividers.boundaryAfter mark⟩) ++
      dividers.elseMark.toList.map fun mark => ⟨mark, mark + 1, dividers.close⟩)

end Dividers

def seekEndFor (access : Access) (opener stop depth index : Nat) : Except Halt Nat :=
  if index < stop then do
    let token ← access.token index
    match token.kind with
    | .forLoop => seekEndFor access opener stop (depth + 1) (index + 1)
    | .endFor =>
        if depth = 0 then .ok index else seekEndFor access opener stop (depth - 1) (index + 1)
    | _ => seekEndFor access opener stop depth (index + 1)
  else do
    let token ← access.token opener
    .error (.fault ⟨.unclosedFor, token.location⟩)
termination_by stop - index

def seekDividers (access : Access) (opener stop depth : Nat) (elseSeen : Bool) (index : Nat) :
    Except Halt Dividers :=
  if index < stop then do
    let token ← access.token index
    match token.kind, depth with
    | .ifBranch, depth => seekDividers access opener stop (depth + 1) elseSeen (index + 1)
    | .endIf, 0 => .ok ⟨[], none, index⟩
    | .endIf, depth + 1 => seekDividers access opener stop depth elseSeen (index + 1)
    | .elseIf, 0 =>
        if elseSeen then .error (.fault ⟨.elseIfAfterElse, token.location⟩)
        else do
          let later ← seekDividers access opener stop 0 elseSeen (index + 1)
          return { later with elseIfs := index :: later.elseIfs }
    | .elseBranch, 0 =>
        if elseSeen then .error (.fault ⟨.secondElse, token.location⟩)
        else do
          let later ← seekDividers access opener stop 0 true (index + 1)
          return { later with elseMark := some index }
    | _, depth => seekDividers access opener stop depth elseSeen (index + 1)
  else do
    let token ← access.token opener
    .error (.fault ⟨.unclosedIf, token.location⟩)
termination_by stop - index

theorem le_of_seekEndFor {access : Access} {opener stop depth index close : Nat}
    (found : seekEndFor access opener stop depth index = .ok close) : index ≤ close := by
  fun_induction seekEndFor access opener stop depth index with
  | case1 depth index below nested left passed =>
      obtain ⟨token, _, found⟩ := bind_eq_ok_iff.mp found
      split at found
      · exact Nat.le_of_succ_le (nested found)
      · split at found
        · exact Nat.le_of_eq (Except.ok.inj found)
        · exact Nat.le_of_succ_le (left found)
      · exact Nat.le_of_succ_le (passed found)
  | case2 =>
      obtain ⟨token, _, found⟩ := bind_eq_ok_iff.mp found
      cases found

theorem le_of_seekDividers {access : Access} {opener stop depth index : Nat} {elseSeen : Bool}
    {dividers : Dividers}
    (found : seekDividers access opener stop depth elseSeen index = .ok dividers) :
    index ≤ dividers.close := by
  fun_induction seekDividers access opener stop depth elseSeen index generalizing dividers with
  | case1 depth elseSeen index below nested passed divided last =>
      obtain ⟨token, _, found⟩ := bind_eq_ok_iff.mp found
      split at found
      · exact Nat.le_of_succ_le (nested _ found)
      · obtain rfl := Except.ok.inj found
        exact Nat.le_refl _
      · exact Nat.le_of_succ_le (passed _ found)
      · split at found
        · cases found
        · obtain ⟨later, search, same⟩ := bind_eq_ok_iff.mp found
          obtain rfl := Except.ok.inj same
          have later := divided search
          exact Nat.le_of_succ_le later
      · split at found
        · cases found
        · obtain ⟨later, search, same⟩ := bind_eq_ok_iff.mp found
          obtain rfl := Except.ok.inj same
          have later := last search
          exact Nat.le_of_succ_le later
      · exact Nat.le_of_succ_le (passed _ found)
  | case2 =>
      obtain ⟨token, _, found⟩ := bind_eq_ok_iff.mp found
      cases found

def Access.Gives (access : Access) (tokens : Array Token) (start stop : Nat) : Prop :=
  ∀ index, start ≤ index → index < stop →
    ∃ token, tokens[index]? = some token ∧ access.token index = .ok token

theorem Access.Gives.token_eq {access : Access} {tokens : Array Token} {start stop index : Nat}
    {token : Token} (gives : access.Gives tokens start stop) (low : start ≤ index)
    (high : index < stop) (found : tokens[index]? = some token) :
    access.token index = .ok token := by
  obtain ⟨other, same, given⟩ := gives index low high
  rw [found] at same
  rw [given, Option.some.inj same]

section Search

variable {access : Access} {tokens : Array Token} {start stop opener : Nat} {token : Token}
  (gives : access.Gives tokens start stop) (opened : access.token opener = .ok token)

include gives opened

theorem seekEndFor_eq {depth index : Nat} (low : start ≤ index) :
    seekEndFor access opener stop depth index =
      match findEndFor? tokens stop depth index with
      | none => .error (.fault ⟨.unclosedFor, token.location⟩)
      | some close => .ok close := by
  fun_induction findEndFor? tokens stop depth index with
  | case1 depth index below missing =>
      obtain ⟨other, found, _⟩ := gives index low below
      rw [missing] at found
      cases found
  | case2 depth index below other found kind ih =>
      rw [seekEndFor, if_pos below, gives.token_eq low below found, ok_bind]
      simp only [kind, ih (Nat.le_succ_of_le low)]
  | case3 index below other found kind =>
      rw [seekEndFor, if_pos below, gives.token_eq low below found, ok_bind]
      simp only [kind, if_true]
  | case4 depth index below other found kind nested ih =>
      rw [seekEndFor, if_pos below, gives.token_eq low below found, ok_bind]
      simp only [kind, nested, if_false, ih (Nat.le_succ_of_le low)]
  | case5 depth index below other found notFor notEnd ih =>
      rw [seekEndFor, if_pos below, gives.token_eq low below found, ok_bind]
      simp only [ih (Nat.le_succ_of_le low)]
  | case6 depth index passed =>
      rw [seekEndFor, if_neg passed, opened, ok_bind]

def Divides (tokens : Array Token) (elseSeen : Bool) :
    Except BlockError (List Nat × Nat) → Except Halt Dividers → Prop
  | .error error, seek => seek = .error (.fault error)
  | .ok (marks, close), seek => ∃ elseIfs elseMark,
      seek = .ok ⟨elseIfs, elseMark, close⟩ ∧ marks = elseIfs ++ elseMark.toList ∧
        (elseSeen = true → elseIfs = [] ∧ elseMark = none) ∧
        (∀ mark ∈ elseIfs, ∃ token, tokens[mark]? = some token ∧ token.kind = .elseIf) ∧
        ∀ mark ∈ elseMark, ∃ token, tokens[mark]? = some token ∧ token.kind = .elseBranch

omit gives opened in
theorem Divides.elseIf {found : Except BlockError (List Nat × Nat)} {seek : Except Halt Dividers}
    {index : Nat} (divides : Divides tokens false found seek)
    (mark : ∃ token, tokens[index]? = some token ∧ token.kind = .elseIf) :
    Divides tokens false (do let (marks, close) ← found; return (index :: marks, close))
      (do let later ← seek; return { later with elseIfs := index :: later.elseIfs }) := by
  match found with
  | .error error =>
      rw [Divides] at divides
      rw [divides]
      rfl
  | .ok (marks, close) =>
      obtain ⟨elseIfs, elseMark, rfl, rfl, unseen, others, last⟩ := divides
      refine ⟨index :: elseIfs, elseMark, rfl, rfl, nofun, ?_, last⟩
      exact List.forall_mem_cons.mpr ⟨mark, others⟩

omit gives opened in
theorem Divides.elseBranch {found : Except BlockError (List Nat × Nat)}
    {seek : Except Halt Dividers} {index : Nat} (divides : Divides tokens true found seek)
    (mark : ∃ token, tokens[index]? = some token ∧ token.kind = .elseBranch) :
    Divides tokens false (do let (marks, close) ← found; return (index :: marks, close))
      (do let later ← seek; return { later with elseMark := some index }) := by
  match found with
  | .error error =>
      rw [Divides] at divides
      rw [divides]
      rfl
  | .ok (marks, close) =>
      obtain ⟨elseIfs, elseMark, rfl, rfl, unseen, others, last⟩ := divides
      obtain ⟨rfl, rfl⟩ := unseen rfl
      refine ⟨[], some index, rfl, rfl, nofun, others, ?_⟩
      intro other same
      obtain rfl := Option.mem_some.mp same
      exact mark

theorem divides_seekDividers {depth index : Nat} {elseSeen : Bool} (low : start ≤ index) :
    Divides tokens elseSeen (findMarks tokens token.location stop depth elseSeen index)
      (seekDividers access opener stop depth elseSeen index) := by
  have later := Nat.le_succ_of_le low
  fun_induction findMarks tokens token.location stop depth elseSeen index with
  | case1 depth elseSeen index below missing =>
      obtain ⟨other, found, _⟩ := gives index low below
      rw [missing] at found
      cases found
  | case2 elseSeen index below other found depth kind ih =>
      rw [seekDividers, if_pos below, gives.token_eq low below found, ok_bind]
      simp only [kind]
      exact ih later (Nat.le_succ_of_le later)
  | case3 elseSeen index below other found kind =>
      rw [seekDividers, if_pos below, gives.token_eq low below found, ok_bind]
      simp only [kind]
      exact ⟨[], none, rfl, rfl, fun _ => ⟨rfl, rfl⟩, by simp, by simp⟩
  | case4 elseSeen index below other found depth kind ih =>
      rw [seekDividers, if_pos below, gives.token_eq low below found, ok_bind]
      simp only [kind]
      exact ih later (Nat.le_succ_of_le later)
  | case5 index below other found kind =>
      rw [seekDividers, if_pos below, gives.token_eq low below found, ok_bind]
      simp only [kind, if_true]
      rfl
  | case6 elseSeen index below other found kind unseen ih =>
      obtain rfl : elseSeen = false := by simpa using unseen
      rw [seekDividers, if_pos below, gives.token_eq low below found, ok_bind]
      simp only [kind, Bool.false_eq_true, if_false]
      exact (ih later (Nat.le_succ_of_le later)).elseIf ⟨other, found, kind⟩
  | case7 index below other found kind =>
      rw [seekDividers, if_pos below, gives.token_eq low below found, ok_bind]
      simp only [kind, if_true]
      rfl
  | case8 elseSeen index below other found kind unseen ih =>
      obtain rfl : elseSeen = false := by simpa using unseen
      rw [seekDividers, if_pos below, gives.token_eq low below found, ok_bind]
      simp only [kind, Bool.false_eq_true, if_false]
      exact (ih later (Nat.le_succ_of_le later)).elseBranch ⟨other, found, kind⟩
  | case9 elseSeen index below other found depth notIf notEnd notNested notElseIf notElse ih =>
      have step : seekDividers access opener stop depth elseSeen index =
          seekDividers access opener stop depth elseSeen (index + 1) := by
        rw [seekDividers, if_pos below, gives.token_eq low below found, ok_bind]
        grind
      rw [step]
      exact ih later (Nat.le_succ_of_le later)
  | case10 depth elseSeen index passed =>
      rw [seekDividers, if_neg passed, opened, ok_bind]
      rfl

end Search

theorem Ascending.bounds {high low mark : Nat} {marks : List Nat}
    (ascending : Ascending high low marks) (member : mark ∈ marks) : low ≤ mark ∧ mark < high := by
  induction marks generalizing low with
  | nil => cases member
  | cons first marks ih =>
      obtain ⟨from_, below, later⟩ := ascending
      rcases List.mem_cons.mp member with rfl | member
      · exact ⟨from_, below⟩
      · have bounds := ih later member
        omega

theorem Ascending.append_right {high low : Nat} {front back : List Nat}
    (ascending : Ascending high low (front ++ back)) : ∃ from_, Ascending high from_ back ∧
      low ≤ from_ ∧ ∀ mark ∈ front, mark < from_ := by
  induction front generalizing low with
  | nil => exact ⟨low, ascending, Nat.le_refl _, nofun⟩
  | cons first front ih =>
      obtain ⟨above, _, later⟩ := ascending
      obtain ⟨from_, behind, higher, smaller⟩ := ih later
      refine ⟨from_, behind, by omega, ?_⟩
      exact List.forall_mem_cons.mpr ⟨by omega, smaller⟩

namespace Dividers

variable {dividers : Dividers} {low : Nat}

theorem boundaryAfter_eq_find? (dividers : Dividers) (position : Nat) :
    dividers.boundaryAfter position =
      (dividers.marks.find? (position < ·)).getD dividers.close := by
  rw [boundaryAfter, marks, List.find?_append]
  cases dividers.elseMark with
  | none => rfl
  | some mark => simp [Option.filter_some]

/-- Behind a mark stands the next one. -/
theorem boundaryAfter_mark (ascending : Ascending dividers.close low dividers.marks)
    {front back : List Nat} {mark : Nat} (split : dividers.marks = front ++ mark :: back) :
    dividers.boundaryAfter mark = back.headD dividers.close := by
  rw [split] at ascending
  obtain ⟨from_, ⟨above, _, behind⟩, _, smaller⟩ := ascending.append_right
  have passed : front.find? (mark < ·) = none := by
    rw [List.find?_eq_none]
    intro other member
    have := smaller other member
    simp only [decide_eq_true_eq]
    omega
  rw [boundaryAfter_eq_find?, split, List.find?_append, passed, Option.none_or]
  cases back with
  | nil => simp
  | cons next back =>
      have after : mark < next := behind.1
      simp [after]

theorem boundaryAfter_opener {opener : Nat}
    (ascending : Ascending dividers.close (opener + 1) dividers.marks) :
    dividers.boundaryAfter opener = dividers.marks.headD dividers.close := by
  rw [boundaryAfter_eq_find?]
  cases split : dividers.marks with
  | nil => rfl
  | cons mark marks =>
      rw [split] at ascending
      have after : opener < mark := ascending.1
      simp [after]

end Dividers

def stretchesFrom (close : Nat) : (tag : Nat) → List Nat → List Stretch
  | tag, [] => [⟨tag, tag + 1, close⟩]
  | tag, mark :: marks => ⟨tag, tag + 1, mark⟩ :: stretchesFrom close mark marks

theorem positions_stretchesFrom {close tag : Nat} {marks : List Nat} (below : tag < close)
    (ascending : Ascending close (tag + 1) marks) :
    (stretchesFrom close tag marks).flatMap Stretch.positions = List.range' tag (close - tag) := by
  induction marks generalizing tag with
  | nil =>
      have count : close - tag = close - (tag + 1) + 1 := by omega
      simp [stretchesFrom, Stretch.positions, count, List.range'_succ]
  | cons mark marks ih =>
      obtain ⟨above, under, later⟩ := ascending
      have count : close - tag = mark - (tag + 1) + (close - mark) + 1 := by omega
      have joint : tag + 1 + (mark - (tag + 1)) = mark := by omega
      have adjacent : List.range' (tag + 1) (mark - (tag + 1)) ++
          List.range' (tag + 1 + (mark - (tag + 1))) (close - mark) =
            List.range' (tag + 1) (mark - (tag + 1) + (close - mark)) := List.range'_append_1
      rw [joint] at adjacent
      rw [stretchesFrom, List.flatMap_cons, ih under later, Stretch.positions, count,
        List.range'_succ, List.cons_append, adjacent]

namespace Dividers

theorem stretches_eq {dividers : Dividers} {opener : Nat}
    (ascending : Ascending dividers.close (opener + 1) dividers.marks) :
    dividers.stretches opener = stretchesFrom dividers.close opener dividers.marks := by
  have onward (tag : Nat) (front back : List Nat) (split : dividers.elseIfs = front ++ back)
      (next : dividers.boundaryAfter tag =
        (back ++ dividers.elseMark.toList).headD dividers.close) :
      (⟨tag, tag + 1, dividers.boundaryAfter tag⟩ : Stretch) ::
          (back.map (fun mark => ⟨mark, mark + 1, dividers.boundaryAfter mark⟩) ++
            dividers.elseMark.toList.map fun mark => ⟨mark, mark + 1, dividers.close⟩) =
        stretchesFrom dividers.close tag (back ++ dividers.elseMark.toList) := by
    induction back generalizing tag front with
    | nil =>
        rw [next]
        cases dividers.elseMark <;> rfl
    | cons mark back ih =>
        have whole : dividers.marks = front ++ mark :: (back ++ dividers.elseMark.toList) := by
          rw [marks, split, List.append_assoc, List.cons_append]
        have later := ih mark (front ++ [mark]) (by simp [split])
          (boundaryAfter_mark ascending whole)
        rw [next, List.map_cons, List.cons_append, List.cons_append, later]
        rfl
  exact onward opener [] dividers.elseIfs rfl (boundaryAfter_opener ascending)

/-- The tags of a branch and the ranges of its sections follow one another from the opening tag to
the closing one. -/
theorem positions_stretches {dividers : Dividers} {opener : Nat} (below : opener < dividers.close)
    (ascending : Ascending dividers.close (opener + 1) dividers.marks) :
    (dividers.stretches opener).flatMap Stretch.positions ++ [dividers.close] =
      List.range' opener (dividers.close + 1 - opener) := by
  have count : dividers.close + 1 - opener = dividers.close - opener + 1 := by omega
  have last : opener + (dividers.close - opener) = dividers.close := by omega
  rw [stretches_eq ascending, positions_stretchesFrom below ascending, count, List.range'_1_concat,
    last]

end Dividers

end Stencil.Node
