import Stencil.Path

/-!
Glob patterns: `?` stands for one character, `*` for any number of them, brackets for one of the
characters they list or, with `!`, for any other, and a part `**` for directories of any depth.
Names that start with a point are not special.
-/

namespace Stencil

structure CharRange where
  first : Char
  last : Char
  deriving DecidableEq

def CharRange.contains (range : CharRange) (character : Char) : Bool :=
  range.first ≤ character && character ≤ range.last

inductive GlobPart where
  | literal (character : Char)
  | anyOne
  | anyRun
  | anyPath
  | oneOf (ranges : List CharRange)
  | noneOf (ranges : List CharRange)
  deriving DecidableEq

namespace Glob

def ranges : List Char → List CharRange
  | [] => []
  | first :: '-' :: last :: rest => ⟨first, last⟩ :: ranges rest
  | single :: rest => ⟨single, single⟩ :: ranges rest

def readBracket? : List Char → Option (List Char × List Char)
  | [] => none
  | first :: rest =>
      match rest.dropWhile (· != ']') with
      | [] => none
      | _ :: after => some (first :: rest.takeWhile (· != ']'), after)

theorem length_readBracket?_lt {text listed after : List Char}
    (read : readBracket? text = some (listed, after)) : after.length < text.length := by
  cases text with
  | nil => simp [readBracket?] at read
  | cons first rest =>
      simp only [readBracket?] at read
      split at read
      · simp at read
      · rename_i dropped
        simp only [Option.some.injEq, Prod.mk.injEq] at read
        have shorter := (List.dropWhile_sublist (l := rest) (· != ']')).length_le
        rw [dropped, List.length_cons] at shorter
        simp only [List.length_cons, ← read.2]
        omega

/-- The parts of a pattern. `atStart` says whether a part of a path starts here, which is the only
place for `**`. -/
def parse? (atStart : Bool) (text : List Char) : Option (List GlobPart) :=
  match text with
  | [] => some []
  | '?' :: text => (parse? false text).map (.anyOne :: ·)
  | '*' :: '*' :: '*' :: _ => none
  | ['*', '*'] => if atStart then some [.anyPath] else none
  | '*' :: '*' :: '/' :: text => if atStart then (parse? true text).map (.anyPath :: ·) else none
  | '*' :: '*' :: _ => none
  | '*' :: text => (parse? false text).map (.anyRun :: ·)
  | '[' :: '!' :: text =>
      match _found : readBracket? text with
      | none => none
      | some (listed, after) => (parse? false after).map (.noneOf (ranges listed) :: ·)
  | '[' :: text =>
      match _found : readBracket? text with
      | none => none
      | some (listed, after) => (parse? false after).map (.oneOf (ranges listed) :: ·)
  | character :: text => (parse? (character == '/') text).map (.literal character :: ·)
termination_by text.length
decreasing_by
  all_goals simp only [List.length_cons]
  all_goals first
    | omega
    | exact Nat.lt_succ_of_lt (Nat.lt_succ_of_lt (length_readBracket?_lt _found))
    | exact Nat.lt_succ_of_lt (length_readBracket?_lt _found)

def isMatch : List GlobPart → List Char → Bool
  | [], name => name.isEmpty
  | .literal expected :: parts, name =>
      match name with
      | [] => false
      | character :: name => expected == character && isMatch parts name
  | .anyOne :: parts, name =>
      match name with
      | [] => false
      | _ :: name => isMatch parts name
  | .oneOf ranges :: parts, name =>
      match name with
      | [] => false
      | character :: name => ranges.any (·.contains character) && isMatch parts name
  | .noneOf ranges :: parts, name =>
      match name with
      | [] => false
      | character :: name => !ranges.any (·.contains character) && isMatch parts name
  | .anyRun :: parts, name =>
      isMatch parts name ||
        match name with
        | [] => false
        | _ :: rest => isMatch (.anyRun :: parts) rest
  | .anyPath :: parts, name =>
      isMatch parts name ||
        match name with
        | [] => false
        | _ :: rest => isMatch (.anyPath :: parts) rest
termination_by parts name => parts.length + name.length

def literal? : List GlobPart → Option (List Char)
  | [] => some []
  | .literal character :: parts => (literal? parts).map (character :: ·)
  | _ => none

def isAnyPath : List GlobPart → Bool
  | [.anyPath] => true
  | _ => false

def stepTexts (text : List Char) : List (List Char) :=
  match (Path.splitSlashes text).reverse with
  | [] :: parts => parts.reverse
  | parts => parts.reverse

def steps? (text : List Char) : Option (List (List GlobPart)) := do
  let _ ← parse? true text
  (stepTexts (if text.head? == some '/' then text.drop 1 else text)).mapM (parse? true)

end Glob

end Stencil
