import Stencil.Node.Basic
import Stencil.Text.Blank
import Stencil.Text.Letter
import Stencil.Text.Search
import Stencil.Token.Basic

/-!
Trees from tokens. The end of a block is found by counting the blocks of the same sort that open
and close in between; the tokens inside are then read as trees of their own, in their range of
positions.
-/

namespace Stencil

inductive BlockFault where
  | unexpected (kind : TokenKind)
  | unclosedFor
  | unclosedIf
  | elseIfAfterElse
  | secondElse
  | invalidFor

namespace BlockFault

def message : BlockFault → String
  | .unexpected kind => "unexpected " ++ kind.text ++ " tag"
  | .unclosedFor => "could not find Efor tag for For tag"
  | .unclosedIf => "could not find Eif tag for If tag"
  | .elseIfAfterElse => "Else If tag after Else tag"
  | .secondElse => "multiple Else tags for If tag"
  | .invalidFor => "invalid For tag, expected '<variable> in <expression>'"

end BlockFault

structure BlockError where
  fault : BlockFault
  location : Location

namespace Node

def splitFor? (text : String) : Option (String × String) :=
  match Text.cutAt? [' ', 'i', 'n', ' '] text.toList with
  | none => none
  | some (before, after) =>
      let variableName := Text.trim before
      if Text.isName variableName then
        some (String.ofList variableName, String.ofList (Text.trim after))
      else none

def findEndFor? (tokens : Array Token) (stop depth index : Nat) : Option Nat :=
  if index < stop then
    match tokens[index]? with
    | none => none
    | some token =>
        match token.kind with
        | .forLoop => findEndFor? tokens stop (depth + 1) (index + 1)
        | .endFor =>
            if depth = 0 then some index else findEndFor? tokens stop (depth - 1) (index + 1)
        | _ => findEndFor? tokens stop depth (index + 1)
  else none
termination_by stop - index

theorem findEndFor?_bounds {tokens : Array Token} {stop depth index close : Nat}
    (found : findEndFor? tokens stop depth index = some close) : index ≤ close ∧ close < stop := by
  fun_induction findEndFor? tokens stop depth index <;> grind

/-- The positions of the tags that divide a branch, which are its `else if` tags and its `else` tag,
and the position of the `eif` that closes it. Between `index` and `stop`, `depth` branches have been
opened since, and `opener` is the tag that opened this one. -/
def findMarks (tokens : Array Token) (opener : Location) (stop depth : Nat) (elseSeen : Bool)
    (index : Nat) : Except BlockError (List Nat × Nat) :=
  if index < stop then
    match tokens[index]? with
    | none => .error ⟨.unclosedIf, opener⟩
    | some token =>
        match token.kind, depth with
        | .ifBranch, depth => findMarks tokens opener stop (depth + 1) elseSeen (index + 1)
        | .endIf, 0 => .ok ([], index)
        | .endIf, depth + 1 => findMarks tokens opener stop depth elseSeen (index + 1)
        | .elseIf, 0 =>
            if elseSeen then .error ⟨.elseIfAfterElse, token.location⟩
            else do
              let (marks, close) ← findMarks tokens opener stop 0 elseSeen (index + 1)
              return (index :: marks, close)
        | .elseBranch, 0 =>
            if elseSeen then .error ⟨.secondElse, token.location⟩
            else do
              let (marks, close) ← findMarks tokens opener stop 0 true (index + 1)
              return (index :: marks, close)
        | _, depth => findMarks tokens opener stop depth elseSeen (index + 1)
  else .error ⟨.unclosedIf, opener⟩
termination_by stop - index

def Ascending (high : Nat) : (low : Nat) → List Nat → Prop
  | _, [] => True
  | low, mark :: marks => low ≤ mark ∧ mark < high ∧ Ascending high (mark + 1) marks

theorem Ascending.mono {high low lower : Nat} {marks : List Nat} (below : lower ≤ low)
    (ascending : Ascending high low marks) : Ascending high lower marks := by
  cases marks with
  | nil => trivial
  | cons mark marks => exact ⟨Nat.le_trans below ascending.1, ascending.2⟩

theorem findMarks_bounds {tokens : Array Token} {opener : Location} {stop depth index close : Nat}
    {elseSeen : Bool} {marks : List Nat}
    (found : findMarks tokens opener stop depth elseSeen index = .ok (marks, close)) :
    index ≤ close ∧ close < stop ∧ Ascending close index marks := by
  have skipped {marks : List Nat} {index : Nat}
      (later : index + 1 ≤ close ∧ close < stop ∧ Ascending close (index + 1) marks) :
      index ≤ close ∧ close < stop ∧ Ascending close index marks :=
    ⟨Nat.le_of_succ_le later.1, later.2.1, later.2.2.mono (Nat.le_succ index)⟩
  have marked {result : Except BlockError (List Nat × Nat)} {marks : List Nat} {index : Nat}
      (step : (do let (marks, close) ← result; return (index :: marks, close)) =
        Except.ok (marks, close))
      (later : ∀ {marks}, result = .ok (marks, close) →
        index + 1 ≤ close ∧ close < stop ∧ Ascending close (index + 1) marks) :
      index ≤ close ∧ close < stop ∧ Ascending close index marks := by
    match result with
    | .error _ => simp [bind, Except.bind] at step
    | .ok (others, last) =>
        simp only [bind, Except.bind, pure, Except.pure, Except.ok.injEq, Prod.mk.injEq] at step
        obtain ⟨front, same⟩ := step
        subst front same
        have bounds := later rfl
        exact ⟨Nat.le_of_succ_le bounds.1, bounds.2.1, Nat.le_refl _, bounds.1, bounds.2.2⟩
  fun_induction findMarks tokens opener stop depth elseSeen index generalizing marks with
  | case1 => simp at found
  | case2 _ _ _ _ _ _ _ ih => exact skipped (ih found)
  | case3 _ index below =>
      simp only [Except.ok.injEq, Prod.mk.injEq] at found
      obtain ⟨empty, same⟩ := found
      subst empty same
      exact ⟨Nat.le_refl _, below, trivial⟩
  | case4 _ _ _ _ _ _ _ ih => exact skipped (ih found)
  | case5 => simp at found
  | case6 _ _ _ _ _ _ _ ih => exact marked found fun result => ih result
  | case7 => simp at found
  | case8 _ _ _ _ _ _ _ ih => exact marked found fun result => ih result
  | case9 _ _ _ _ _ _ _ _ _ _ _ ih => exact skipped (ih found)
  | case10 => simp at found

mutual

def parseRange (tokens : Array Token) (start stop : Nat) : Except BlockError (List Node) :=
  if _below : start < stop then
    match tokens[start]? with
    | none => .ok []
    | some token =>
        match token.kind with
        | .plain => do
            let others ← parseRange tokens (start + 1) stop
            return .plain token.text :: others
        | .expression => do
            let others ← parseRange tokens (start + 1) stop
            return .output (.ofSource token.text) token.location :: others
        | .forLoop =>
            match _found : findEndFor? tokens stop 0 (start + 1) with
            | none => .error ⟨.unclosedFor, token.location⟩
            | some close =>
                match splitFor? token.text with
                | none => .error ⟨.invalidFor, token.location⟩
                | some (variableName, iterable) => do
                    let body ← parseRange tokens (start + 1) close
                    let others ← parseRange tokens (close + 1) stop
                    return .forLoop variableName (.ofSource iterable) body token.location :: others
        | .ifBranch =>
            match _found : findMarks tokens token.location stop 0 false (start + 1) with
            | .error error => .error error
            | .ok (marks, close) => do
                let body ← parseRange tokens (start + 1) (marks.headD close)
                let alternatives ← parseAlternatives tokens close (start + 1) marks
                  (findMarks_bounds _found).2.2
                let others ← parseRange tokens (close + 1) stop
                return .ifBranch (.ofSource token.text) body alternatives token.location :: others
        | kind => .error ⟨.unexpected kind, token.location⟩
  else .ok []
termination_by stop - start
decreasing_by
  · omega
  · omega
  · have := findEndFor?_bounds _found; omega
  · have := findEndFor?_bounds _found; omega
  · have bounds := findMarks_bounds _found
    cases marks with
    | nil => simp only [List.headD_nil]; omega
    | cons mark marks => have := bounds.2.2.2.1; simp only [List.headD_cons]; omega
  · have := findMarks_bounds _found; omega
  · have := findMarks_bounds _found; omega

def parseAlternatives (tokens : Array Token) (close low : Nat) (marks : List Nat)
    (ascending : Ascending close low marks) : Except BlockError Alternatives :=
  match marks, ascending with
  | [], _ => .ok .none
  | mark :: marks, ascending =>
      match tokens[mark]? with
      | none => .ok .none
      | some token => do
          let body ← parseRange tokens (mark + 1) (marks.headD close)
          match token.kind with
          | .elseIf =>
              let others ← parseAlternatives tokens close (mark + 1) marks ascending.2.2
              return .elseIf (.ofSource token.text) body others token.location
          | _ => return .elseBranch body
termination_by close - low
decreasing_by
  · have := ascending.1
    have := ascending.2.1
    cases marks with
    | nil => simp only [List.headD_nil]; omega
    | cons next marks => have := ascending.2.2.2.1; simp only [List.headD_cons]; omega
  · have := ascending.1
    have := ascending.2.1
    omega

end

def parse (tokens : List Token) : Except BlockError Template :=
  parseRange tokens.toArray 0 tokens.length

end Node

end Stencil
