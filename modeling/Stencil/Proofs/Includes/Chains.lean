import Stencil.FileSet
import Stencil.Proofs.Includes.Origins

/-!
A template can be scanned exactly if its includes are well-founded: the chains that they form end,
no file is read below itself, and no chain is too deep. What is read below what is a matter of the
chain alone, so that a file may be included as often as one likes side by side.
-/

namespace Stencil.Token

variable {tags : Tags} {load : Loader}

theorem Spliced.unique {file : String} {cursor : Cursor} {segments : List Segment}
    {tokens others : List Token} (spliced : Spliced tags load file cursor segments tokens)
    (again : Spliced tags load file cursor segments others) : tokens = others := by
  induction spliced generalizing others with
  | none =>
      cases again
      rfl
  | own target read _ ih =>
      cases again with
      | own _ otherRead later =>
          rw [read, Except.ok.injEq] at otherRead
          rw [otherRead, ih later]
      | included otherTarget _ _ _ => simp [target] at otherTarget
  | included target loaded _ _ insideSame laterSame =>
      cases again with
      | own otherTarget _ _ => simp [target] at otherTarget
      | included otherTarget otherLoaded inside later =>
          rw [target, Option.some.injEq] at otherTarget
          subst otherTarget
          rw [loaded, Option.some.injEq] at otherLoaded
          subst otherLoaded
          rw [insideSame inside, laterSame later]

theorem nodup_reverse_append {root : Path} {paths : List Path} :
    (paths.reverse ++ [root]).Nodup ↔ (root :: paths).Nodup := by
  rw [← List.reverse_cons, List.nodup_reverse]

theorem scan_succeeds_iff {name source : String} :
    (∃ tokens, scan tags load name source = .ok tokens) ↔
      Legible tags name source.toList ∧ ∀ paths, Chain tags load name source.toList paths →
        (∀ path ∈ paths, Sound tags load path) ∧
        ((Path.ofString name).normalize :: paths).Nodup ∧ paths.length ≤ maxIncludeDepth := by
  rw [scan, ofFile_succeeds_iff_expands (List.nodup_singleton _)]
  constructor
  · intro expands
    refine ⟨expands.legible, fun paths chain => ⟨expands.sound paths chain, ?_, ?_⟩⟩
    · exact nodup_reverse_append.mp (expands.fresh paths chain)
    · exact expands.shallow paths chain
  · rintro ⟨legible, each⟩
    exact ⟨legible, fun paths chain => (each paths chain).1,
      fun paths chain => nodup_reverse_append.mpr (each paths chain).2.1,
      fun paths chain => (each paths chain).2.2⟩

/-- A file is reported as circular only if a chain has come back to it. -/
theorem exists_chain_of_circular {name source : String} {path : Path} {location : Location}
    (failed : scan tags load name source = .error ⟨.circular path, location⟩) :
    ∃ paths, Chain tags load name source.toList (paths ++ [path]) ∧
      path ∈ (Path.ofString name).normalize :: paths := by
  obtain ⟨opening, member, fails⟩ := exists_opening_of_error (by rfl) failed
  cases fails with
  | circular comes target below =>
      obtain ⟨paths, same, _, onward⟩ := leadsTo_of_mem_openings member
      have site := mem_reached_iff.mpr ⟨_, _, comes, target⟩
      refine ⟨paths, onward path site, ?_⟩
      rw [same, List.mem_append, List.mem_reverse, List.mem_singleton] at below
      exact List.mem_cons.mpr below.symm

/-- A template is scanned to its end exactly if it is legible and so are the files on all chains of
its includes, no chain comes back to a file, and none is longer than the limit. The tokens are then
those of the files, spliced into each other. The files that are being read are always different, at
most the template and a chain of the greatest length; a scan that fails does so in one of them, and in
a scan that succeeds they are what the chains are. -/
theorem scan_succeeds_iff_chains (tags : Tags) (load : Loader) (name source : String) :
    ((∃ tokens, scan tags load name source = .ok tokens) ↔
      Legible tags name source.toList ∧ ∀ paths, Chain tags load name source.toList paths →
        (∀ path ∈ paths, Sound tags load path) ∧
        ((Path.ofString name).normalize :: paths).Nodup ∧ paths.length ≤ 64) ∧
    (∀ tokens, scan tags load name source = .ok tokens → ∀ others,
      (Spliced tags load name (.ofSource source.toList) (Segment.cut tags source.toList).segments
        others ↔ others = tokens)) ∧
    (∀ opening ∈ openingsOf tags load name source,
      opening.stack.Nodup ∧ opening.stack.length ≤ 65) ∧
    (∀ error, scan tags load name source = .error error →
      ∃ opening ∈ openingsOf tags load name source, opening.Fails tags load error) ∧
    (∀ tokens, scan tags load name source = .ok tokens → ∀ paths,
      (Chain tags load name source.toList paths ↔
        ∃ opening ∈ openingsOf tags load name source,
          opening.stack = paths.reverse ++ [(Path.ofString name).normalize])) ∧
    (∀ path location, scan tags load name source = .error ⟨.circular path, location⟩ →
      ∃ paths, Chain tags load name source.toList (paths ++ [path]) ∧
        path ∈ (Path.ofString name).normalize :: paths) ∧
    (∀ paths, Chain tags load name source.toList paths →
      ¬ ((Path.ofString name).normalize :: paths).Nodup →
        ∃ error, scan tags load name source = .error error) := by
  refine ⟨scan_succeeds_iff, ?_, ?_, ?_, ?_, ?_, ?_⟩
  · intro tokens read others
    have spliced := spliced_of_ofSegments spliced_of_ofInclude (ofFile_eq_ok_iff.mp read).2
    constructor
    · intro again
      exact again.unique spliced
    · rintro rfl
      exact spliced
  · intro opening member
    exact ⟨nodup_of_mem_openings (List.nodup_singleton _) member, length_of_mem_openings member⟩
  · intro error failed
    exact exists_opening_of_error rfl failed
  · intro tokens read paths
    constructor
    · exact exists_opening_of_chain read
    · rintro ⟨opening, member, same⟩
      obtain ⟨others, otherSame, chain, _⟩ := leadsTo_of_mem_openings member
      rw [otherSame] at same
      obtain rfl : others = paths := List.reverse_inj.mp (List.append_cancel_right same)
      exact chain
  · intro path location
    exact exists_chain_of_circular
  · intro paths chain cyclic
    cases outcome : scan tags load name source with
    | error error => exact ⟨error, rfl⟩
    | ok tokens =>
        obtain ⟨_, each⟩ := scan_succeeds_iff.mp ⟨tokens, outcome⟩
        exact absurd (each paths chain).2.1 cyclic

def diamond : FileSet :=
  (((FileSet.insert {} (.ofString "a") "a[@ c @]").insert (.ofString "b") "[@ ./x/../c @]b").insert
    (.ofString "c") "c")

theorem scan_diamond :
    (∃ tokens, scan {} diamond.load "page" "[@ a @][@ b @][@ c @]" = .ok tokens) ∧
      ∀ paths, Chain {} diamond.load "page" "[@ a @][@ b @][@ c @]".toList paths →
        paths.length ≤ 64 := by
  have read : (scan {} diamond.load "page" "[@ a @][@ b @][@ c @]").toOption.isSome := by
    decide +kernel
  obtain ⟨tokens, scanned⟩ : ∃ tokens,
      scan {} diamond.load "page" "[@ a @][@ b @][@ c @]" = .ok tokens := by
    cases outcome : scan {} diamond.load "page" "[@ a @][@ b @][@ c @]" with
    | error error => simp [outcome, Except.toOption] at read
    | ok tokens => exact ⟨tokens, rfl⟩
  obtain ⟨exact, _⟩ := scan_succeeds_iff_chains {} diamond.load "page" "[@ a @][@ b @][@ c @]"
  exact ⟨⟨tokens, scanned⟩, fun paths chain => ((exact.mp ⟨tokens, scanned⟩).2 paths chain).2.2⟩

end Stencil.Token
