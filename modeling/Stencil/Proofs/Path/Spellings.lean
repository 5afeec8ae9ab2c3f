import Stencil.Engine
import Stencil.FileSet
import Stencil.Proofs.Includes.Origins
import Stencil.Proofs.Path.Canonical

/-!
Spellings of a path do not matter. What is stored under a path is found under every spelling of it,
and a file that is being read is known again however an include tag writes its path.
-/

namespace Stencil

def StoredLast {α : Type} (entries : List (Path × α)) (path : Path) : Option α → Prop
  | none => ∀ entry ∈ entries, ¬ entry.1.Equivalent path
  | some value => ∃ before spelling after, entries = before ++ (spelling, value) :: after ∧
      spelling.Equivalent path ∧ ∀ entry ∈ after, ¬ entry.1.Equivalent path

section Stores

variable {α : Type} {entries : List (Path × α)} {path : Path}

theorem StoredLast.concat {found : Option α} {spelling : Path} (value : α)
    (last : StoredLast entries path found) (apart : ¬ spelling.Equivalent path) :
    StoredLast (entries ++ [(spelling, value)]) path found := by
  cases found with
  | none =>
      intro entry member
      rcases List.mem_append.mp member with before | final
      · exact last entry before
      · obtain rfl := List.mem_singleton.mp final
        exact apart
  | some stored =>
      obtain ⟨before, known, after, rfl, equivalent, others⟩ := last
      refine ⟨before, known, after ++ [(spelling, value)], by simp, equivalent, ?_⟩
      intro entry member
      rcases List.mem_append.mp member with among | final
      · exact others entry among
      · obtain rfl := List.mem_singleton.mp final
        exact apart

/-- The last entry is found first where normal forms serve as keys. -/
theorem storedLast_lookup (entries : List (Path × α)) (path : Path) :
    StoredLast entries path
      ((entries.reverse.map fun (spelling, value) => (spelling.normalize, value)).lookup
        path.normalize) := by
  induction entries using List.reverseRecOn with
  | nil => simp [StoredLast]
  | append_singleton entries entry ih =>
      obtain ⟨spelling, value⟩ := entry
      rw [List.reverse_append, List.reverse_singleton, List.singleton_append, List.map_cons,
        List.lookup_cons]
      cases same : path.normalize == spelling.normalize with
      | true =>
          refine ⟨entries, spelling, [], rfl, ?_, by simp⟩
          exact Path.normalize_eq_iff.mp (eq_of_beq same).symm
      | false =>
          refine ih.concat value fun equivalent => ne_of_beq_false same ?_
          exact (Path.normalize_eq_iff.mpr equivalent).symm

end Stores

namespace FileSet

def insertAll (entries : List (Path × String)) : FileSet :=
  entries.foldl (fun files (path, text) => files.insert path text) {}

theorem stored_insertAll (entries : List (Path × String)) :
    (insertAll entries).stored =
      entries.reverse.map fun (path, text) => (path.normalize, text) := by
  induction entries using List.reverseRecOn with
  | nil => rfl
  | append_singleton entries entry ih =>
      rw [insertAll, List.foldl_append, List.reverse_append, List.map_append, ← ih]
      rfl

end FileSet

namespace Engine

def addRepeats (engine : Engine) (specs : List (Path × RepeatSpec)) : Engine :=
  specs.foldl (fun engine (path, spec) => engine.addRepeat path spec) engine

theorem repeats_addRepeats (engine : Engine) (specs : List (Path × RepeatSpec)) :
    (engine.addRepeats specs).repeats =
      (specs.reverse.map fun (path, spec) => (path.normalize, spec)) ++ engine.repeats := by
  induction specs using List.reverseRecOn with
  | nil => rfl
  | append_singleton specs entry ih =>
      rw [addRepeats, List.foldl_append, List.reverse_append, List.map_append, List.append_assoc,
        ← ih]
      rfl

end Engine

namespace Token

theorem mem_map_normalize_iff {opened : List Path} {path : Path} :
    path.normalize ∈ opened.map Path.normalize ↔ ∃ other ∈ opened, other.Equivalent path := by
  rw [List.mem_map]
  exact exists_congr fun other => and_congr_right fun _ => Path.normalize_eq_iff

/-- The tokens of a file that is read below the files with the paths `opened`, none of which leads to
it. All paths are as they are written. -/
def ofNew (tags : Tags) (load : Loader) (opened : List Path) (target : Path) (location : Location) :
    (levels : Nat) → Except ScanError (List Token)
  | 0 => .error ⟨.tooDeep, location⟩
  | levels + 1 =>
      match load target.normalize with
      | none => .error ⟨.unreadable target.normalize, location⟩
      | some text =>
          ofFile (ofInclude tags load levels ((target :: opened).map Path.normalize)) tags
            target.normalize.toString text.toList

section Tags

variable {tags : Tags} {load : Loader} {levels : Nat} {opened : List Path} {file : String}
  {location : Location} {inner : List Char}

theorem ofSegment_include_opened
    (again : ∃ path ∈ opened, path.Equivalent (writtenTarget file inner)) :
    ofSegment (ofInclude tags load levels (opened.map Path.normalize)) file location
        (.tag .include inner) =
      .error ⟨.circular (writtenTarget file inner).normalize, location⟩ :=
  ofInclude_circular (mem_map_normalize_iff.mpr again)

theorem ofSegment_include_new
    (fresh : ¬ ∃ path ∈ opened, path.Equivalent (writtenTarget file inner)) :
    ofSegment (ofInclude tags load levels (opened.map Path.normalize)) file location
        (.tag .include inner) =
      ofNew tags load opened (writtenTarget file inner) location levels := by
  have new : (writtenTarget file inner).normalize ∉ opened.map Path.normalize :=
    mem_map_normalize_iff.not.mpr fresh
  change ofInclude tags load levels _ (writtenTarget file inner).normalize location = _
  cases levels with
  | zero => rw [ofInclude, if_neg new, ofNew]
  | succ levels =>
      rw [ofInclude, if_neg new, ofNew]
      rfl

theorem ofSegment_include_congr {other : List Char}
    {including : Path → Location → Except ScanError (List Token)}
    (equivalent : (writtenTarget file inner).Equivalent (writtenTarget file other)) :
    ofSegment including file location (.tag .include inner) =
      ofSegment including file location (.tag .include other) :=
  congrArg (including · location) (Path.normalize_eq_iff.mpr equivalent)

end Tags

end Token

namespace Path

theorem components_normalize_canonical (path : Path) :
    ∃ names : List (List Char), (∀ name ∈ names, Ordinary name) ∧
      ((path.isAbsolute = true ∧ path.normalize.components = .root :: names.map .name) ∨
        (path.isAbsolute = false ∧ ∃ ups,
          path.normalize.components = List.replicate ups .up ++ names.map .name)) := by
  rw [components_normalize]
  have canonical := canonical_place path
  generalize path.place = place at canonical
  generalize path.isAbsolute = absolute at canonical
  cases canonical with
  | absolute names each =>
      refine ⟨names.reverse, fun name member => each name (List.mem_reverse.mp member), .inl ?_⟩
      simp
  | relative ups names each =>
      refine ⟨names.reverse, fun name member => each name (List.mem_reverse.mp member), .inr ?_⟩
      exact ⟨rfl, ups, by simp⟩

/-- The normal form of a path has names only, below the root or so many levels up, and is its own
normal form. It stands for the place that the path leads to: two paths have the same one exactly if
they lead to the same place from every directory that is deep enough. A path may be put in normal
form before another one is followed from it, and so may that one. Hence what is stored under a path
is found under every spelling, a later entry in the place of an earlier one, and an include tag is
circular exactly if the path that it names leads to a file that is being read. -/
theorem normalize_canonical :
    (∀ path : Path, path.normalize.normalize = path.normalize ∧
      ∃ names : List (List Char), (∀ name ∈ names, Ordinary name) ∧
        ((path.isAbsolute = true ∧ path.normalize.components = .root :: names.map .name) ∨
          (path.isAbsolute = false ∧ ∃ ups,
            path.normalize.components = List.replicate ups .up ++ names.map .name))) ∧
    (∀ path other : Path, path.normalize = other.normalize ↔ path.Equivalent other) ∧
    (∀ base path : Path,
      (base.join path).normalize = (base.normalize.join path.normalize).normalize) ∧
    (∀ entries path, StoredLast entries path ((FileSet.insertAll entries).load path)) ∧
    (∀ tags load specs path,
      StoredLast specs path ((Engine.addRepeats ⟨tags, load, []⟩ specs).repeatFor? path)) ∧
    (∀ including file location inner other,
      (Token.writtenTarget file inner).Equivalent (Token.writtenTarget file other) →
        Token.ofSegment including file location (.tag .include inner) =
          Token.ofSegment including file location (.tag .include other)) ∧
    (∀ tags load name source, Token.scan tags load name source =
      Token.ofFile (Token.ofInclude tags load maxIncludeDepth ([ofString name].map normalize)) tags
        name source.toList) ∧
    (∀ tags load levels opened file location inner,
      let target := Token.writtenTarget file inner
      let outcome := Token.ofSegment (Token.ofInclude tags load levels (opened.map normalize)) file
        location (.tag .include inner)
      ((∃ path ∈ opened, path.Equivalent target) →
        outcome = .error ⟨.circular target.normalize, location⟩) ∧
      ((¬ ∃ path ∈ opened, path.Equivalent target) →
        outcome = Token.ofNew tags load opened target location levels)) := by
  refine ⟨?_, ?_, normalize_join, ?_, ?_, ?_, fun _ _ _ _ => rfl, ?_⟩
  · intro path
    exact ⟨normalize_normalize path, components_normalize_canonical path⟩
  · intro path other
    exact normalize_eq_iff
  · intro entries path
    rw [FileSet.load, FileSet.stored_insertAll]
    exact storedLast_lookup entries path
  · intro tags load specs path
    rw [Engine.repeatFor?, Engine.repeats_addRepeats, List.append_nil]
    exact storedLast_lookup specs path
  · intro including file location inner other
    exact Token.ofSegment_include_congr
  · intro tags load levels opened file location inner
    exact ⟨Token.ofSegment_include_opened, Token.ofSegment_include_new⟩

example : (ofString "./a/../../b//c/.").normalize = ofString "../b/c" := by decide

end Path

end Stencil
