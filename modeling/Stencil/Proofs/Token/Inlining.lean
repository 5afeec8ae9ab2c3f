import Stencil.Proofs.Token.Letters

/-!
A file that includes nothing may be written out where it is included: the source is scanned into
the same contents, up to how plain text is divided between tokens.
-/

namespace Stencil

namespace Segment

def IncludeAt (tags : Tags) (front inner rest : List Char) : Prop :=
  ∃ before, front = sources tags before ∧ IncludeAfter tags before inner rest

theorem IncludeAfter.cut {tags : Tags} {before : List Segment} {inner rest : List Char}
    (reached : IncludeAfter tags before inner rest) :
    Segment.cut tags (sources tags before ++ ((tag .include inner).source tags ++ rest)) =
      ⟨before ++ .tag .include inner :: (Segment.cut tags rest).segments,
        (Segment.cut tags rest).unclosed⟩ := by
  have stops : Stops tags ((tag .include inner).source tags ++ rest) :=
    .inr ⟨.include, reached.fits.1⟩
  rw [cut_sources reached.covers reached.separated stops, cut_tag reached.fits, foldr_cons]
  rfl

theorem segmentation_of_unclosed {tags : Tags} {source : List Char}
    (closed : (cut tags source).unclosed = none) :
    Segmentation tags source (cut tags source).segments := by
  apply cut_eq_iff_segmentation.mp
  rw [← closed]

theorem start_include_infix {tags : Tags} {segments : List Segment} {inner : List Char}
    (member : Segment.tag .include inner ∈ segments) :
    tags.start .include <:+: sources tags segments := by
  obtain ⟨before, after, rfl⟩ := List.append_of_mem member
  refine ⟨sources tags before, inner ++ tags.stop .include ++ sources tags after, ?_⟩
  simp [source]

theorem covers_inlined {tags : Tags} {before inside after : List Segment} {rest : List Char}
    (covers : Covers tags rest before) (insideCovers : Covers tags [] inside)
    (afterCovers : Covers tags [] after)
    (frontApart : ∀ kind, ¬ Text.Crosses (tags.start kind)
      (sources tags before ++ (sources tags inside ++ sources tags after))
      (sources tags before).length)
    (backApart : ∀ kind, ¬ Text.Crosses (tags.start kind)
      (sources tags before ++ (sources tags inside ++ sources tags after))
      (sources tags before ++ sources tags inside).length) :
    Covers tags [] (before ++ (inside ++ after)) := by
  have backInside (kind : TagKind) : ¬ Text.Crosses (tags.start kind)
      (sources tags inside ++ sources tags after) (sources tags inside).length := by
    intro crosses
    apply backApart kind
    rw [List.length_append]
    exact crosses.append (sources tags before)
  rw [covers_append, covers_append, sources_append, List.append_nil, List.append_nil]
  exact ⟨covers.change frontApart, insideCovers.change backInside, afterCovers⟩

end Segment

namespace Token

open Segment

theorem included?_leaf {tags : Tags} {load : Loader} {levels : Nat} {stack : List Path}
    {path : Path} {file : String} {said : List (TokenKind × Option String)}
    (loaded : load path = some file) (leaf : ¬ tags.start .include <:+: file.toList)
    (answered : included? tags load (levels + 1) stack path = some said)
    (answer : Path → Option (List (TokenKind × Option String))) (name : String) :
    ∃ inside, Segmentation tags file.toList inside ∧ allSay? answer name inside = some said := by
  rw [included?, ofInclude] at answered
  split at answered
  · simp at answered
  · simp only [loaded, contents?_file] at answered
    split at answered
    · rename_i closed
      have segmentation := segmentation_of_unclosed closed
      refine ⟨_, segmentation, ?_⟩
      rw [← answered]
      apply allSay?_of_quiet
      intro inner member
      apply leaf
      rw [segmentation.whole]
      exact start_include_infix member
    · simp at answered

theorem exists_scan_inlined {tags : Tags} {load : Loader} {name file : String}
    {front inner rest : List Char} {tokens : List Token}
    (reached : IncludeAt tags front inner rest)
    (loaded : load (includeTarget name inner) = some file)
    (leaf : ¬ tags.start .include <:+: file.toList)
    (frontApart : ∀ kind, ¬ Text.Crosses (tags.start kind)
      (front ++ (file.toList ++ rest)) front.length)
    (backApart : ∀ kind, ¬ Text.Crosses (tags.start kind)
      (front ++ (file.toList ++ rest)) (front ++ file.toList).length)
    (scanned : scan tags load name
      (String.ofList (front ++ ((Segment.tag .include inner).source tags ++ rest))) = .ok tokens) :
    ∃ inlined, scan tags load name (String.ofList (front ++ (file.toList ++ rest))) = .ok inlined ∧
      spread (inlined.map content) = spread (tokens.map content) := by
  obtain ⟨before, rfl, reached⟩ := reached
  have said := contents?_eq_some_iff.mpr ⟨tokens, scanned, rfl⟩
  rw [scan, contents?_file, String.toList_ofList, reached.cut] at said
  generalize root : [(Path.ofString name).normalize] = stack at said
  generalize answers : included? tags load maxIncludeDepth stack = answer at said
  split at said
  · rename_i closed
    have afterCut := segmentation_of_unclosed closed
    simp only [allSay?_append, allSay?, Option.bind_eq_some_iff, Option.map_eq_some_iff] at said
    obtain ⟨first, firstSaid, _, ⟨middle, middleSaid, last, lastSaid, rfl⟩, whole⟩ := said
    simp only [says?, ← answers] at middleSaid
    obtain ⟨inside, insideCut, insideSaid⟩ := included?_leaf loaded leaf middleSaid answer name
    rw [insideCut.whole, afterCut.whole] at frontApart backApart
    -- The pieces fit side by side, but where they meet there may be plain text on both sides.
    have covered := covers_inlined reached.covers insideCut.covers afterCut.covers frontApart backApart
    have inlinedCut := cut_eq_iff_segmentation.mpr (segmentation_fuse covered)
    rw [sources_append, sources_append, ← insideCut.whole, ← afterCut.whole] at inlinedCut
    have together : allSay? answer name (before ++ (inside ++ (cut tags rest).segments)) =
        some (tokens.map content) := by
      simp [allSay?_append, firstSaid, insideSaid, lastSaid, whole]
    have fused := spread_fuse answer name (before ++ (inside ++ (cut tags rest).segments))
    rw [together] at fused
    obtain ⟨contents, fusedSaid, same⟩ := Option.map_eq_some_iff.mp fused
    have inlinedSaid : contents? (scan tags load name
        (String.ofList (sources tags before ++ (file.toList ++ rest)))) = some contents := by
      rw [scan, contents?_file, String.toList_ofList, inlinedCut, root, answers, if_pos rfl]
      exact fusedSaid
    obtain ⟨inlined, read, rfl⟩ := contents?_eq_some_iff.mp inlinedSaid
    exact ⟨inlined, read, same⟩
  · simp at said

end Token

end Stencil
