import Stencil.Glob.Basic
import Stencil.Script

/-!
Finding the files that a glob pattern selects. Every step of the pattern leads from a directory to
some of its entries; a step that spells out a name is followed without looking into the directory.
-/

namespace Stencil.Glob

def below (path : Path) (name : List Char) : Path :=
  if path.components = [.here] then ⟨name⟩ else path.join ⟨name⟩

def leadsOn (path : Path) (name : List Char) : Script Bool := do
  if name = ['.'] ∨ name = ['.', '.'] then
    return (← Script.kindAt path) == some .directory
  else
    return (← Script.kindAt (below path name)).isSome

def dotNames (step : List GlobPart) : List (List Char) :=
  match step with
  | .literal '.' :: _ => [['.', '.'], ['.']].filter (isMatch step)
  | _ => []

def dropAnyPaths : List (List GlobPart) → List (List GlobPart)
  | [] => []
  | step :: steps => if isAnyPath step then dropAnyPaths steps else step :: steps

theorem length_dropAnyPaths_le (steps : List (List GlobPart)) :
    (dropAnyPaths steps).length ≤ steps.length := by
  induction steps with
  | nil => exact Nat.le_refl _
  | cons step steps ih =>
      simp only [dropAnyPaths]
      split
      · simp only [List.length_cons]
        omega
      · exact Nat.le_refl _

mutual

/-- The paths that some steps lead to from a path on, in the order in which they are found. A step
for directories of any depth goes so many levels down. -/
def search (levels : Nat) (steps : List (List GlobPart)) (path : Path) : Script (List Path) :=
  match steps with
  | [] => return [path]
  | step :: others =>
      match literal? step with
      | some name => do
          if ← leadsOn path name then search levels others (below path name) else return []
      | none => do
          if (← Script.kindAt path) == some .directory then
            let names := (← Script.namesIn path).mergeSort fun left right => decide (left ≤ right)
            let special ← Script.gather
              (fun name => search levels others (path.join ⟨name⟩)) (dotNames step)
            let entries ← Script.gather
              (fun name => searchEntry levels (step :: others) (below path name.toList) name.toList)
              names
            return special ++ entries
          else return []
termination_by (levels, steps.length, 1)

def searchEntry (levels : Nat) (steps : List (List GlobPart)) (path : Path) (name : List Char) :
    Script (List Path) :=
  match steps with
  | [] => return []
  | step :: others => do
      if isAnyPath step then
        let isDirectory := (← Script.kindAt path) == some .directory
        let here ←
          match _found : dropAnyPaths others with
          | [] => pure (if isDirectory then [path] else [])
          | next :: rest => if isMatch next name then search levels rest path else pure []
        let deeper ←
          match levels with
          | 0 => pure []
          | levels + 1 =>
              if isDirectory then search levels (step :: dropAnyPaths others) path else pure []
        return here ++ deeper
      else if isMatch step name then search levels others path
      else return []
termination_by (levels, steps.length, 0)
decreasing_by
  · exact Prod.Lex.left _ _ (Nat.lt_succ_self _)
  · have shorter := length_dropAnyPaths_le others
    rw [_found] at shorter
    simp only [List.length_cons] at shorter
    exact Prod.Lex.right _ (Prod.Lex.left _ _ (by simp only [List.length_cons]; omega))
  · exact Prod.Lex.right _ (Prod.Lex.left _ _ (Nat.lt_succ_self _))

end

def deepest : Nat := 2048

def select? (pattern : String) : Option (Script (List Path)) :=
  (steps? pattern.toList).map fun steps => do
    if pattern.toList.getLast? = some '/' then return []
    else
      let start : Path := if (Path.ofString pattern).isAbsolute then ⟨['/']⟩ else ⟨['.']⟩
      let found ← search deepest steps start
      Script.gather (fun path => do
        return if (← Script.kindAt path) == some .file then [path] else []) found

end Stencil.Glob
