import Mathlib.Data.List.Infix
import Stencil.Proofs.Outcome
import Stencil.Proofs.Token.Segmentation
import Stencil.Token.Scan

/-!
The tokens of a source that includes nothing are its segments, read one by one: each says what its
token says and starts where its token is located.
-/

namespace Stencil

def Token.content (token : Token) : TokenKind × Option String := (token.kind, token.value)

namespace Segment

def content? : Segment → Option (TokenKind × Option String)
  | .plain text => some (.plain, some (String.ofList text))
  | .tag .expression inner => some (.expression, some (String.ofList (Text.trim inner)))
  | .tag .control inner => Token.control? inner
  | .tag .include _ => none

def locations (tags : Tags) (file : String) : Cursor → List Segment → List Location
  | _, [] => []
  | cursor, segment :: segments =>
      cursor.location file ::
        locations tags file (cursor.advance (segment.source tags).length) segments

/-- Scanning comes to an include tag before it has found anything that is illegible. -/
def ReachesInclude (tags : Tags) (source : List Char) : Prop :=
  ∃ before inner rest,
    source = sources tags before ++ ((tag .include inner).source tags ++ rest) ∧
      IncludeAfter tags before inner rest ∧ ∀ segment ∈ before, segment.content?.isSome

end Segment

namespace Token

open Segment

variable {including : Path → Location → Except ScanError (List Token)} {tags : Tags}
  {file : String}

theorem ofSegment_of_content? (including : Path → Location → Except ScanError (List Token))
    (file : String) {segment : Segment} {content : TokenKind × Option String}
    (location : Location) (legible : segment.content? = some content) :
    ofSegment including file location segment = .ok [⟨content.1, content.2, location⟩] := by
  match segment with
  | .plain text =>
      cases legible
      rfl
  | .tag .expression inner =>
      cases legible
      rfl
  | .tag .control inner =>
      rw [content?] at legible
      simp [ofSegment, legible]
  | .tag .include inner => simp [content?] at legible

theorem ofSegment_ne_ok_of_content? {inner : List Char} {tokens : List Token}
    (location : Location) (illegible : (tag .control inner).content? = none) :
    ofSegment including file location (.tag .control inner) ≠ .ok tokens := by
  rw [content?] at illegible
  simp [ofSegment, illegible]

theorem ofSegments_unclosed_ne_ok {kind : TagKind} {cursor : Cursor} {segments : List Segment}
    {tokens : List Token} :
    ofSegments including tags file (some kind) cursor segments ≠ .ok tokens := by
  induction segments generalizing cursor tokens with
  | nil => simp [ofSegments]
  | cons segment segments ih =>
      intro read
      simp only [ofSegments, Outcome.bind_eq_ok_iff] at read
      obtain ⟨front, _, back, later, _⟩ := read
      exact ih later

theorem ofSegments_eq_ok_iff {cursor : Cursor} {segments : List Segment} {tokens : List Token}
    (quiet : ∀ before inner after, segments = before ++ .tag .include inner :: after →
      ∃ segment ∈ before, segment.content? = none) :
    ofSegments including tags file none cursor segments = .ok tokens ↔
      segments.map content? = tokens.map (fun token => some token.content) ∧
        tokens.map Token.location = locations tags file cursor segments := by
  -- Both sides fail at the first illegible segment; before it the tokens match one by one.
  induction segments generalizing cursor tokens with
  | nil =>
      cases tokens <;> simp [ofSegments, locations]
  | cons segment segments ih =>
      cases said : segment.content? with
      | none =>
          constructor
          · intro read
            match segment with
            | .plain text => simp [content?] at said
            | .tag .expression inner => simp [content?] at said
            | .tag .control inner =>
                simp only [ofSegments, Outcome.bind_eq_ok_iff] at read
                obtain ⟨front, first, _⟩ := read
                exact absurd first (ofSegment_ne_ok_of_content? _ said)
            | .tag .include inner =>
                obtain ⟨other, member, _⟩ := quiet [] inner segments rfl
                simp at member
          · rintro ⟨same, _⟩
            cases tokens <;> simp [said] at same
      | some content =>
          have later : ∀ before inner after, segments = before ++ .tag .include inner :: after →
              ∃ segment ∈ before, segment.content? = none := by
            rintro before inner after rfl
            obtain ⟨other, member, silent⟩ := quiet (segment :: before) inner after rfl
            rcases List.mem_cons.mp member with rfl | behind
            · simp [said] at silent
            · exact ⟨other, behind, silent⟩
          have first := ofSegment_of_content? including file (cursor.location file) said
          simp only [ofSegments, first, Outcome.ok_bind, Outcome.bind_eq_ok_iff, ih later]
          constructor
          · rintro ⟨back, ⟨same, places⟩, joined⟩
            obtain rfl : _ = tokens := Except.ok.inj joined
            refine ⟨?_, ?_⟩
            · rw [List.map_cons, said, same]
              rfl
            · rw [locations, ← places]
              rfl
          · rintro ⟨same, places⟩
            cases tokens with
            | nil => simp at same
            | cons token tokens =>
                simp only [List.map_cons, List.cons.injEq, locations] at same places
                refine ⟨tokens, ⟨same.2, places.2⟩, ?_⟩
                obtain rfl : content = token.content := by simpa [said] using same.1
                rw [← places.1]
                rfl

theorem ofFile_eq_ok_iff {source : List Char} {tokens : List Token} :
    ofFile including tags file source = .ok tokens ↔
      (cut tags source).unclosed = none ∧
        ofSegments including tags file none (.ofSource source) (cut tags source).segments =
          .ok tokens := by
  rw [ofFile]
  cases (cut tags source).unclosed with
  | none => simp
  | some kind => simp [ofSegments_unclosed_ne_ok]

end Token

namespace Segment

theorem exists_illegible_of_not_reaches {tags : Tags} {source : List Char}
    (quiet : ¬ ReachesInclude tags source) {before after : List Segment} {inner : List Char}
    (parts : (cut tags source).segments = before ++ .tag .include inner :: after) :
    ∃ segment ∈ before, segment.content? = none := by
  obtain ⟨rest, whole, covers, separated, _⟩ := exists_leftOver_cut tags source
  rw [parts] at whole covers separated
  obtain ⟨early, fits, _⟩ := covers_append.mp covers
  by_contra legible
  apply quiet
  refine ⟨before, inner, sources tags after ++ rest, ?_, ⟨?_, ?_, fits⟩, ?_⟩
  · simpa using whole
  · simpa using early
  · exact separated.left_of_append
  · intro segment member
    rw [Option.isSome_iff_ne_none]
    intro silent
    exact legible ⟨segment, member, silent⟩

theorem segmentation_plain {tags : Tags} {source : List Char} (filled : source ≠ [])
    (free : ∀ kind, ¬ tags.start kind <:+: source) : Segmentation tags source [.plain source] := by
  refine ⟨by simp [Segment.source], ⟨⟨filled, ?_⟩, trivial⟩, .singleton _⟩
  intro kind offset _ starts
  apply free kind
  rw [sources_nil, List.append_nil, List.append_nil] at starts
  exact starts.isInfix.trans (List.drop_suffix offset source).isInfix

end Segment

open Segment in
/-- A source that reaches no include is scanned into tokens exactly where it can be cut into
segments that say something, one token for each. There is only one way to cut a source, and one
without a start delimiter is a single plain token. -/
theorem scan_eq_ok_iff_segmentation (tags : Tags) (load : Loader) (name source : String) :
    (¬ ReachesInclude tags source.toList → ∀ tokens,
      (Token.scan tags load name source = .ok tokens ↔
        ∃ segments, Segmentation tags source.toList segments ∧
          segments.map content? = tokens.map (fun token => some token.content) ∧
          tokens.map Token.location =
            locations tags name (.ofSource source.toList) segments)) ∧
    (∀ segments others, Segmentation tags source.toList segments →
      Segmentation tags source.toList others → segments = others) ∧
    (source ≠ "" → (∀ kind, ¬ tags.start kind <:+: source.toList) →
      Token.scan tags load name source =
        .ok [⟨.plain, some source, (Cursor.ofSource source.toList).location name⟩]) := by
  refine ⟨?_, fun segments others => Segmentation.unique, ?_⟩
  · intro quiet tokens
    rw [Token.scan, Token.ofFile_eq_ok_iff, Token.ofSegments_eq_ok_iff
      fun before inner after => exists_illegible_of_not_reaches quiet]
    constructor
    · rintro ⟨closed, read⟩
      refine ⟨(cut tags source.toList).segments, cut_eq_iff_segmentation.mp ?_, read⟩
      rw [← closed]
    · rintro ⟨segments, segmentation, read⟩
      rw [cut_eq_iff_segmentation.mpr segmentation]
      exact ⟨rfl, read⟩
  · intro filled free
    have segmentation := segmentation_plain (by simpa using filled) free
    rw [Token.scan, Token.ofFile, cut_eq_iff_segmentation.mpr segmentation]
    simp [Token.ofSegments, Token.ofSegment, pure, Except.pure]

open Segment in
theorem scan_text_and_expression :
    ∃ tokens, Token.scan {} (fun _ => none) "page" "a[[ b ]]" = .ok tokens ∧
      tokens.map Token.content = [(.plain, some "a"), (.expression, some "b")] := by
  have quiet : ¬ ReachesInclude {} "a[[ b ]]".toList := by
    rintro ⟨before, inner, rest, whole, _⟩
    have found : ['[', '@'] <:+: "a[[ b ]]".toList := by
      rw [whole]
      exact ⟨sources {} before, inner ++ (Tags.stop {} .include ++ rest), by simp [source, Tags.start]⟩
    revert found
    decide
  have segmentation : Segmentation {} "a[[ b ]]".toList
      [.plain ['a'], .tag .expression [' ', 'b', ' ']] := by
    refine ⟨by decide, ?_, ?_⟩
    · simp [Covers, Fits, Opens, Text.Avoids, TagKind.forall_iff, Tags.start, Tags.stop, source]
      decide
    · simp [Separated, IsPlain]
  have exact := (scan_eq_ok_iff_segmentation {} (fun _ => none) "page" "a[[ b ]]").1 quiet
  refine ⟨[⟨.plain, some "a", ⟨"page", 1, 1, "a[[ b ]]"⟩⟩,
    ⟨.expression, some "b", ⟨"page", 1, 2, "a[[ b ]]"⟩⟩], (exact _).mpr ⟨_, segmentation, ?_, ?_⟩, rfl⟩
  · decide
  · decide

end Stencil
