import Mathlib.Data.List.Nodup
import Stencil.Proofs.Includes.Sites
import Stencil.Proofs.Token.Scanning

/-!
Which templates can be scanned with everything that they include. Includes lead in chains from the
template to other files. All the files on the chains have to be there and be legible, and no chain
may come back to one of its files or be too long; then each include tag stands for the tokens of the
file that it names.
-/

namespace Stencil.Token

open Segment

/-- Include tags lead from a file to a first file, from there to the next one, and so on. A file that
is not there leads nowhere. -/
def Chain (tags : Tags) (load : Loader) : (file : String) → (source : List Char) → List Path → Prop
  | _, _, [] => True
  | file, source, path :: paths =>
      path ∈ sites tags file source ∧
        match load path with
        | none => paths = []
        | some text => Chain tags load path.toString text.toList paths

def Sound (tags : Tags) (load : Loader) (path : Path) : Prop :=
  ∃ text, load path = some text ∧ Legible tags path.toString text.toList

/-- All chains from a file can be followed to their ends when the file is read below the files of
`stack` with so many levels left: their files are sound, none of them is read below itself, and no
chain is longer than there are levels. -/
structure Expands (tags : Tags) (load : Loader) (levels : Nat) (stack : List Path)
    (file : String) (source : List Char) : Prop where
  legible : Legible tags file source
  sound : ∀ paths, Chain tags load file source paths → ∀ path ∈ paths, Sound tags load path
  fresh : ∀ paths, Chain tags load file source paths → (paths.reverse ++ stack).Nodup
  shallow : ∀ paths, Chain tags load file source paths → paths.length ≤ levels

/-- The tokens of some segments of a file from a cursor on, with the tokens of other files spliced
in where they are included. -/
inductive Spliced (tags : Tags) (load : Loader) :
    (file : String) → Cursor → List Segment → List Token → Prop
  | none {file cursor} : Spliced tags load file cursor [] []
  | own {file cursor segment segments front back} : segment.target? file = none →
      ofSegment leaveOut file (cursor.location file) segment = .ok front →
      Spliced tags load file (cursor.advance (segment.source tags).length) segments back →
      Spliced tags load file cursor (segment :: segments) (front ++ back)
  | included {file cursor segment segments path text inside back} :
      segment.target? file = some path → load path = some text →
      Spliced tags load path.toString (.ofSource text.toList) (cut tags text.toList).segments inside →
      Spliced tags load file (cursor.advance (segment.source tags).length) segments back →
      Spliced tags load file cursor (segment :: segments) (inside ++ back)

variable {tags : Tags} {load : Loader} {levels : Nat} {stack : List Path} {file : String}
  {source : List Char}

theorem ofInclude_succeeds_iff {path : Path} {location : Location} :
    (∃ tokens, ofInclude tags load (levels + 1) stack path location = .ok tokens) ↔
      path ∉ stack ∧ ∃ text, load path = some text ∧ ∃ tokens,
        ofFile (ofInclude tags load levels (path :: stack)) tags path.toString text.toList =
          .ok tokens := by
  rw [ofInclude]
  by_cases circular : path ∈ stack
  · simp [circular]
  · cases load path with
    | none => simp [circular]
    | some text => simp [circular]

theorem not_ofInclude_zero {path : Path} {location : Location} {tokens : List Token} :
    ofInclude tags load 0 stack path location ≠ .ok tokens := by
  rw [ofInclude]
  split <;> simp

theorem expands_zero_iff (distinct : stack.Nodup) :
    Expands tags load 0 stack file source ↔
      Legible tags file source ∧ ∀ path ∈ sites tags file source, False := by
  constructor
  · intro expands
    refine ⟨expands.legible, ?_⟩
    intro path site
    have chain : Chain tags load file source [path] := by
      refine ⟨site, ?_⟩
      cases load path <;> simp [Chain]
    have short := expands.shallow [path] chain
    simp at short
  · rintro ⟨legible, none⟩
    have empty (paths : List Path) (chain : Chain tags load file source paths) : paths = [] := by
      cases paths with
      | nil => rfl
      | cons path paths => exact absurd chain.1 (none path)
    refine ⟨legible, ?_, ?_, ?_⟩
    · intro paths chain
      simp [empty paths chain]
    · intro paths chain
      simpa [empty paths chain] using distinct
    · intro paths chain
      simp [empty paths chain]

/-- A file expands where each file that it includes is new to the stack and expands below it. -/
theorem expands_succ_iff (distinct : stack.Nodup) :
    Expands tags load (levels + 1) stack file source ↔
      Legible tags file source ∧ ∀ path ∈ sites tags file source, path ∉ stack ∧
        ∃ text, load path = some text ∧
          Expands tags load levels (path :: stack) path.toString text.toList := by
  constructor
  · intro expands
    refine ⟨expands.legible, ?_⟩
    intro path site
    have single : Chain tags load file source [path] := by
      refine ⟨site, ?_⟩
      cases load path <;> simp [Chain]
    obtain ⟨text, loaded, legible⟩ := expands.sound [path] single path (by simp)
    have longer {paths : List Path} (chain : Chain tags load path.toString text.toList paths) :
        Chain tags load file source (path :: paths) := by
      refine ⟨site, ?_⟩
      rw [loaded]
      exact chain
    refine ⟨?_, text, loaded, legible, ?_, ?_, ?_⟩
    · have fresh := expands.fresh [path] single
      exact (List.nodup_cons.mp fresh).1
    · intro paths chain other member
      exact expands.sound _ (longer chain) other (List.mem_cons_of_mem _ member)
    · intro paths chain
      have fresh := expands.fresh _ (longer chain)
      rwa [List.reverse_cons, List.append_assoc] at fresh
    · intro paths chain
      have short := expands.shallow _ (longer chain)
      rw [List.length_cons] at short
      omega
  · rintro ⟨legible, each⟩
    have after {path : Path} {paths : List Path}
        (chain : Chain tags load file source (path :: paths)) :
        ∃ text, load path = some text ∧
          Expands tags load levels (path :: stack) path.toString text.toList ∧
          Chain tags load path.toString text.toList paths := by
      obtain ⟨site, further⟩ := chain
      obtain ⟨_, text, loaded, expands⟩ := each path site
      rw [loaded] at further
      exact ⟨text, loaded, expands, further⟩
    refine ⟨legible, ?_, ?_, ?_⟩
    · intro paths chain other member
      cases paths with
      | nil => simp at member
      | cons path paths =>
          obtain ⟨text, loaded, expands, further⟩ := after chain
          rcases List.mem_cons.mp member with rfl | behind
          · exact ⟨text, loaded, expands.legible⟩
          · exact expands.sound paths further other behind
    · intro paths chain
      cases paths with
      | nil => exact distinct
      | cons path paths =>
          obtain ⟨text, loaded, expands, further⟩ := after chain
          have fresh := expands.fresh paths further
          rwa [List.reverse_cons, List.append_assoc]
    · intro paths chain
      cases paths with
      | nil => exact Nat.zero_le _
      | cons path paths =>
          obtain ⟨text, loaded, expands, further⟩ := after chain
          exact Nat.succ_le_succ (expands.shallow paths further)

/-- Scanning follows all the chains from a file. -/
theorem ofFile_succeeds_iff_expands (distinct : stack.Nodup) :
    (∃ tokens, ofFile (ofInclude tags load levels stack) tags file source = .ok tokens) ↔
      Expands tags load levels stack file source := by
  induction levels generalizing stack file source with
  | zero =>
      have answered (path : Path) (location : Location) :
          (∃ tokens, ofInclude tags load 0 stack path location = .ok tokens) ↔ False := by
        simp [not_ofInclude_zero]
      rw [ofFile_succeeds_iff answered, expands_zero_iff distinct]
  | succ levels ih =>
      have answered (path : Path) (location : Location) :
          (∃ tokens, ofInclude tags load (levels + 1) stack path location = .ok tokens) ↔
            path ∉ stack ∧ ∃ text, load path = some text ∧
              Expands tags load levels (path :: stack) path.toString text.toList := by
        rw [ofInclude_succeeds_iff]
        apply and_congr_right
        intro fresh
        simp only [ih (List.nodup_cons.mpr ⟨fresh, distinct⟩)]
      rw [ofFile_succeeds_iff answered, expands_succ_iff distinct]

theorem spliced_of_ofSegments {cursor : Cursor} {segments : List Segment} {tokens : List Token}
    {including : Path → Location → Except ScanError (List Token)}
    (answered : ∀ {path location inside}, including path location = .ok inside →
      ∃ text, load path = some text ∧
        Spliced tags load path.toString (.ofSource text.toList) (cut tags text.toList).segments inside)
    (read : ofSegments including tags file none cursor segments = .ok tokens) :
    Spliced tags load file cursor segments tokens := by
  induction segments generalizing cursor tokens with
  | nil =>
      obtain rfl : [] = tokens := Except.ok.inj read
      exact .none
  | cons segment segments ih =>
      simp only [ofSegments, Outcome.bind_eq_ok_iff] at read
      obtain ⟨front, first, back, later, joined⟩ := read
      obtain rfl : front ++ back = tokens := Except.ok.inj joined
      cases target : segment.target? file with
      | none =>
          rw [ofSegment_of_own target] at first
          exact .own target first (ih later)
      | some path =>
          rw [ofSegment_of_target? target] at first
          obtain ⟨text, loaded, inside⟩ := answered first
          exact .included target loaded inside (ih later)

theorem spliced_of_ofInclude {path : Path} {location : Location} {tokens : List Token}
    (read : ofInclude tags load levels stack path location = .ok tokens) :
    ∃ text, load path = some text ∧
      Spliced tags load path.toString (.ofSource text.toList) (cut tags text.toList).segments
        tokens := by
  induction levels generalizing stack path location tokens with
  | zero => exact absurd read not_ofInclude_zero
  | succ levels ih =>
      rw [ofInclude] at read
      split at read
      · simp at read
      · split at read
        · simp at read
        · rename_i text loaded
          obtain ⟨_, parts⟩ := ofFile_eq_ok_iff.mp read
          exact ⟨text, loaded, spliced_of_ofSegments ih parts⟩

end Stencil.Token
