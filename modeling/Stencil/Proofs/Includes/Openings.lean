import Mathlib.Data.List.Nodup
import Stencil.Proofs.Includes.Expansion

/-!
The files that are opened while a template is scanned. Each is read below the files that led to it,
which are all different and of which there are never more than one template and the deepest chain
of includes.
-/

namespace Stencil.Token

structure Opening where
  stack : List Path
  file : String
  text : List Char

/-- The files that are opened while a file is scanned below the files of `stack`, the file itself
first. -/
def openings (tags : Tags) (load : Loader) :
    (levels : Nat) → (stack : List Path) → (file : String) → (text : List Char) → List Opening
  | 0, stack, file, text => [⟨stack, file, text⟩]
  | levels + 1, stack, file, text =>
      ⟨stack, file, text⟩ ::
        (reachedIn (ofInclude tags load (levels + 1) stack) tags file text).flatMap fun path =>
          if path ∈ stack then []
          else
            match load path with
            | none => []
            | some inside => openings tags load levels (path :: stack) path.toString inside.toList

def openingsOf (tags : Tags) (load : Loader) (name source : String) : List Opening :=
  openings tags load maxIncludeDepth [(Path.ofString name).normalize] name source.toList

variable {tags : Tags} {load : Loader} {levels : Nat} {stack : List Path} {file : String}
  {text : List Char} {opening : Opening}

theorem self_mem_openings : ⟨stack, file, text⟩ ∈ openings tags load levels stack file text := by
  cases levels <;> simp [openings]

theorem mem_openings_zero_iff :
    opening ∈ openings tags load 0 stack file text ↔ opening = ⟨stack, file, text⟩ := by
  simp [openings]

theorem mem_openings_succ_iff :
    opening ∈ openings tags load (levels + 1) stack file text ↔
      opening = ⟨stack, file, text⟩ ∨
      ∃ path ∈ reachedIn (ofInclude tags load (levels + 1) stack) tags file text,
        path ∉ stack ∧ ∃ inside, load path = some inside ∧
          opening ∈ openings tags load levels (path :: stack) path.toString inside.toList := by
  rw [openings, List.mem_cons, List.mem_flatMap]
  apply or_congr_right
  apply exists_congr
  intro path
  apply and_congr_right
  intro _
  by_cases circular : path ∈ stack
  · simp [circular]
  · cases load path with
    | none => simp [circular]
    | some inside => simp [circular]

theorem nodup_of_mem_openings (distinct : stack.Nodup)
    (member : opening ∈ openings tags load levels stack file text) : opening.stack.Nodup := by
  induction levels generalizing stack file text with
  | zero =>
      rw [mem_openings_zero_iff.mp member]
      exact distinct
  | succ levels ih =>
      rcases mem_openings_succ_iff.mp member with rfl | ⟨path, _, fresh, inside, _, below⟩
      · exact distinct
      · exact ih (List.nodup_cons.mpr ⟨fresh, distinct⟩) below

theorem length_of_mem_openings
    (member : opening ∈ openings tags load levels stack file text) :
    opening.stack.length ≤ stack.length + levels := by
  induction levels generalizing stack file text with
  | zero =>
      rw [mem_openings_zero_iff.mp member]
      exact Nat.le_refl _
  | succ levels ih =>
      rcases mem_openings_succ_iff.mp member with rfl | ⟨path, _, _, inside, _, below⟩
      · exact Nat.le_add_right _ _
      · have short := ih below
        rw [List.length_cons] at short
        omega

theorem loaded_of_mem_openings (member : opening ∈ openings tags load levels stack file text) :
    opening = ⟨stack, file, text⟩ ∨
      ∃ path below inside, load path = some inside ∧
        opening = ⟨path :: below, path.toString, inside.toList⟩ := by
  induction levels generalizing stack file text with
  | zero => exact .inl (mem_openings_zero_iff.mp member)
  | succ levels ih =>
      rcases mem_openings_succ_iff.mp member with same | ⟨path, _, _, inside, loaded, below⟩
      · exact .inl same
      · rcases ih below with rfl | found
        · exact .inr ⟨path, stack, inside, loaded, rfl⟩
        · exact .inr found

theorem chain_cons {path : Path} {paths : List Path} {inside : String}
    (site : path ∈ sites tags file text) (loaded : load path = some inside)
    (chain : Chain tags load path.toString inside.toList paths) :
    Chain tags load file text (path :: paths) := by
  refine ⟨site, ?_⟩
  rw [loaded]
  exact chain

theorem chain_singleton {path : Path} (load : Loader) (site : path ∈ sites tags file text) :
    Chain tags load file text [path] := by
  refine ⟨site, ?_⟩
  cases load path with
  | none => rfl
  | some inside => trivial

/-- The files of the stack from `stack` on are a chain from a file to the one that is opened, whose
include tags lead on. -/
def LeadsTo (tags : Tags) (load : Loader) (stack : List Path) (file : String) (text : List Char)
    (opening : Opening) : Prop :=
  ∃ paths, opening.stack = paths.reverse ++ stack ∧ Chain tags load file text paths ∧
    ∀ path ∈ sites tags opening.file opening.text, Chain tags load file text (paths ++ [path])

theorem leadsTo_self (tags : Tags) (load : Loader) (stack : List Path) (file : String)
    (text : List Char) : LeadsTo tags load stack file text ⟨stack, file, text⟩ :=
  ⟨[], rfl, trivial, fun _ site => chain_singleton load site⟩

theorem leadsTo_of_mem_openings
    (member : opening ∈ openings tags load levels stack file text) :
    LeadsTo tags load stack file text opening := by
  induction levels generalizing stack file text with
  | zero =>
      rw [mem_openings_zero_iff.mp member]
      exact leadsTo_self tags load stack file text
  | succ levels ih =>
      rcases mem_openings_succ_iff.mp member with rfl | ⟨path, comes, _, inside, loaded, below⟩
      · exact leadsTo_self tags load stack file text
      · have site := mem_sites_of_reachedIn comes
        obtain ⟨paths, same, chain, onward⟩ := ih below
        refine ⟨path :: paths, ?_, chain_cons site loaded chain, ?_⟩
        · rw [same, List.reverse_cons, List.append_assoc]
          rfl
        · intro next nextSite
          exact chain_cons site loaded (onward next nextSite)

/-- Where scanning succeeds, it opens the files of every chain. -/
theorem exists_opening_of_chain {paths : List Path} {tokens : List Token}
    (read : ofFile (ofInclude tags load levels stack) tags file text = .ok tokens)
    (chain : Chain tags load file text paths) :
    ∃ opening ∈ openings tags load levels stack file text,
      opening.stack = paths.reverse ++ stack := by
  induction paths generalizing levels stack file text tokens with
  | nil => exact ⟨_, self_mem_openings, rfl⟩
  | cons path paths ih =>
      obtain ⟨site, further⟩ := chain
      obtain ⟨comes, location, inside, answered⟩ := mem_reachedIn_of_sites read site
      cases levels with
      | zero => exact absurd answered not_ofInclude_zero
      | succ levels =>
          obtain ⟨fresh, source, loaded, others, below⟩ := ofInclude_succeeds_iff.mp ⟨inside, answered⟩
          rw [loaded] at further
          obtain ⟨opening, member, same⟩ := ih below further
          refine ⟨opening, ?_, ?_⟩
          · exact mem_openings_succ_iff.mpr (.inr ⟨path, comes, fresh, source, loaded, member⟩)
          · rw [same, List.reverse_cons, List.append_assoc]
            rfl

end Stencil.Token
