import Stencil.Proofs.FileTree.Runs

/-!
Searching for files. A search only asks, and what a pattern selects are files.
-/

namespace Stencil.Glob

open Script

variable {levels : Nat} {steps : List (List GlobPart)} {path : Path} {name : List Char}

theorem readsOnly_leadsOn (path : Path) (name : List Char) : ReadsOnly (leadsOn path name) := by
  rw [leadsOn]
  split
  · exact (readsOnly_kindAt path).bind fun _ => readsOnly_done _
  · exact (readsOnly_kindAt _).bind fun _ => readsOnly_done _

/-- An entry is searched with fewer steps, or with fewer levels to go down. -/
theorem readsOnly_searchEntry_of
    (shorter : ∀ others path, others.length < steps.length → ReadsOnly (search levels others path))
    (lower : ∀ deeper, levels = deeper + 1 → ∀ steps path, ReadsOnly (search deeper steps path)) :
    ReadsOnly (searchEntry levels steps path name) := by
  cases steps with
  | nil =>
      rw [searchEntry]
      exact readsOnly_done _
  | cons step others =>
      have less : others.length < (step :: others).length := by simp
      have fewer := length_dropAnyPaths_le others
      rw [searchEntry]
      split
      · refine (readsOnly_kindAt path).bind fun kind => ?_
        cases levels with
        | zero =>
            dsimp only
            split
            · exact readsOnly_done _
            · rename_i next rest found
              split
              · rw [found, List.length_cons] at fewer
                exact (shorter rest path (by omega)).bind fun here => readsOnly_done _
              · exact readsOnly_done _
        | succ levels =>
            have deeper (isDirectory : Bool) (here : List Path) : ReadsOnly
                (if isDirectory then do
                  return here ++ (← search levels (step :: dropAnyPaths others) path)
                else do return here ++ (← pure [])) := by
              split
              · exact (lower levels rfl _ path).bind fun _ => readsOnly_done _
              · exact readsOnly_done _
            dsimp only
            split
            · exact deeper _ _
            · rename_i next rest found
              split
              · rw [found, List.length_cons] at fewer
                exact (shorter rest path (by omega)).bind fun here => deeper _ here
              · exact deeper _ _
      · split
        · exact shorter others path less
        · exact readsOnly_done _

theorem readsOnly_search_of
    (shorter : ∀ others path, others.length < steps.length → ReadsOnly (search levels others path))
    (entries : ∀ path name, ReadsOnly (searchEntry levels steps path name)) :
    ReadsOnly (search levels steps path) := by
  cases steps with
  | nil =>
      rw [search]
      exact readsOnly_done _
  | cons step others =>
      have less : others.length < (step :: others).length := by simp
      rw [search]
      split
      · refine (readsOnly_leadsOn path _).bind fun leads => ?_
        split
        · exact shorter others _ less
        · exact readsOnly_done _
      · refine (readsOnly_kindAt path).bind fun kind => ?_
        split
        · refine (readsOnly_namesIn path).bind fun names => ?_
          refine (ReadsOnly.gather (fun name => shorter others _ less) _).bind fun special => ?_
          exact (ReadsOnly.gather (fun name => entries _ _) _).bind fun _ => readsOnly_done _
        · exact readsOnly_done _

theorem readsOnly_search (levels : Nat) (steps : List (List GlobPart)) (path : Path) :
    ReadsOnly (search levels steps path) := by
  -- With so many levels to go down, the steps get fewer; one level deeper they may be more again.
  have each (levels : Nat)
      (lower : ∀ deeper, levels = deeper + 1 → ∀ steps path, ReadsOnly (search deeper steps path))
      (length : Nat) : ∀ steps path, steps.length = length → ReadsOnly (search levels steps path) := by
    induction length using Nat.strongRecOn with
    | ind length ih =>
        intro steps path same
        have shorter (others : List (List GlobPart)) (path : Path)
            (less : others.length < steps.length) : ReadsOnly (search levels others path) :=
          ih others.length (same ▸ less) others path rfl
        exact readsOnly_search_of shorter fun _ _ => readsOnly_searchEntry_of shorter lower
  induction levels generalizing steps path with
  | zero => exact each 0 (by simp) steps.length steps path rfl
  | succ levels ih =>
      refine each (levels + 1) (fun deeper same => ?_) steps.length steps path rfl
      obtain rfl : levels = deeper := by omega
      exact fun steps path => ih steps path

section OneStep

variable {tree : FileTree} {step : List GlobPart}

theorem run_search_spelt (spelt : literal? step = some name)
    (leads : (tree.run (leadsOn path name)).1 = true) :
    tree.run (search levels [step] path) = ([below path name], tree, []) := by
  rw [search, spelt]
  refine FileTree.run_bind ((readsOnly_leadsOn path name).run_eq tree) ?_
  rw [leads, if_pos rfl, search]
  rfl

theorem searchEntry_single (single : isAnyPath step = false) :
    searchEntry levels [step] path name = pure (if isMatch step name then [path] else []) := by
  rw [searchEntry, single, search]
  cases isMatch step name <;> rfl

theorem run_gather_entries (single : isAnyPath step = false) (names : List String) :
    tree.run (gather (fun name => searchEntry levels [step] (below path name.toList) name.toList)
        names) =
      ((names.filter fun name => isMatch step name.toList).map fun name => below path name.toList,
        tree, []) := by
  induction names with
  | nil => rfl
  | cons name names ih =>
      have first : tree.run (searchEntry levels [step] (below path name.toList) name.toList) =
          (if isMatch step name.toList then [below path name.toList] else [], tree, []) := by
        rw [searchEntry_single single]
        rfl
      rw [gather, FileTree.run_bind first (FileTree.run_bind ih rfl), List.filter_cons]
      cases isMatch step name.toList <;> rfl

/-- A step that does not begin with a point leads to the entries of a directory that match it, in the
order of their names. -/
theorem run_search_matching (free : literal? step = none) (single : isAnyPath step = false)
    (undotted : dotNames step = []) (directory : tree.kind? path = some .directory) :
    tree.run (search levels [step] path) =
      ((((tree.names path).mergeSort fun left right => decide (left ≤ right)).filter
        fun name => isMatch step name.toList).map fun name => below path name.toList, tree, []) := by
  have here : tree.run (kindAt path) = (some .directory, tree, []) := by
    rw [← directory]
    rfl
  have listed : tree.run (namesIn path) = (tree.names path, tree, []) := rfl
  rw [search, free]
  refine FileTree.run_bind here (FileTree.run_bind listed ?_)
  rw [undotted]
  exact FileTree.run_bind rfl (FileTree.run_bind (run_gather_entries single _) rfl)

end OneStep

theorem run_gather_files (tree : FileTree) (paths : List Path) :
    tree.run (gather (fun path => do
        return if (← kindAt path) == some .file then [path] else []) paths) =
      (paths.filter fun path => tree.kind? path == some .file, tree, []) := by
  induction paths with
  | nil => rfl
  | cons path paths ih =>
      have first : tree.run (do return if (← kindAt path) == some .file then [path] else []) =
          (if tree.kind? path == some .file then [path] else [], tree, []) := rfl
      rw [gather, FileTree.run_bind first (FileTree.run_bind ih rfl), List.filter_cons]
      cases tree.kind? path == some .file <;> rfl

theorem exists_select?_of_search {tree : FileTree} {pattern : String} {paths : List Path}
    (parsed : steps? pattern.toList = some steps) (files : pattern.toList.getLast? ≠ some '/')
    (relative : (Path.ofString pattern).isAbsolute = false)
    (searched : tree.run (search deepest steps ⟨['.']⟩) = (paths, tree, [])) :
    ∃ found, select? pattern = some found ∧
      tree.run found = (paths.filter fun path => tree.kind? path == some .file, tree, []) := by
  refine ⟨_, by rw [select?, parsed]; rfl, ?_⟩
  simp only [if_neg files, relative]
  exact FileTree.run_bind searched (run_gather_files tree paths)

/-- A pattern can be searched for without changing anything, and selects files. -/
theorem select?_spec {pattern : String} {found : Script (List Path)}
    (selects : select? pattern = some found) :
    ReadsOnly found ∧
      ∀ (tree : FileTree) path, path ∈ (tree.run found).1 → tree.kind? path = some .file := by
  obtain ⟨steps, _, rfl⟩ := Option.map_eq_some_iff.mp selects
  by_cases directories : pattern.toList.getLast? = some '/'
  · simp only [if_pos directories]
    refine ⟨readsOnly_done [], fun tree path member => ?_⟩
    exact absurd member List.not_mem_nil
  · simp only [if_neg directories]
    have search := readsOnly_search deepest steps
      (if (Path.ofString pattern).isAbsolute then ⟨['/']⟩ else ⟨['.']⟩)
    refine ⟨search.bind fun found tree => ?_, fun tree path member => ?_⟩
    · rw [run_gather_files]
    · rw [search.value_bind, run_gather_files] at member
      exact beq_iff_eq.mp (List.mem_filter.mp member).2

end Stencil.Glob
