import Mathlib.Data.List.Chain
import Stencil.Proofs.Text.Occurrence
import Stencil.Token.Segment

/-!
What it means to cut a source into segments. A start delimiter is read where it is the longest that
matches; a tag ends with the first end delimiter behind its start; plain text holds the start of no
delimiter. Every source can be cut in one way only, and this is the way in which it is cut.
-/

namespace Stencil

def TagKind.rank : TagKind → Nat
  | .expression => 0
  | .control => 1
  | .include => 2

theorem TagKind.eq_of_rank {kind other : TagKind} (same : kind.rank = other.rank) :
    kind = other := by
  cases kind <;> cases other <;> simp_all [rank]

theorem TagKind.forall_iff {holds : TagKind → Prop} :
    (∀ kind, holds kind) ↔ holds .expression ∧ holds .control ∧ holds .include := by
  constructor
  · intro all
    exact ⟨all .expression, all .control, all .include⟩
  · rintro ⟨expression, control, included⟩ kind
    cases kind <;> assumption

namespace Segment

/-- A tag of the given kind starts where the text starts: no start delimiter that matches is longer,
and none as long is of lower rank. -/
def Opens (tags : Tags) (kind : TagKind) (text : List Char) : Prop :=
  tags.start kind <+: text ∧ ∀ other, tags.start other <+: text →
    (tags.start other).length < (tags.start kind).length ∨
    ((tags.start other).length = (tags.start kind).length ∧ kind.rank ≤ other.rank)

theorem Opens.unique {tags : Tags} {kind other : TagKind} {text : List Char}
    (opens : Opens tags kind text) (otherOpens : Opens tags other text) : kind = other := by
  have first := opens.2 other otherOpens.1
  have second := otherOpens.2 kind opens.1
  apply TagKind.eq_of_rank
  omega

theorem opening?_eq_none_iff {tags : Tags} {text : List Char} :
    opening? tags text = none ↔ ∀ kind, ¬ tags.start kind <+: text := by
  simp only [TagKind.forall_iff, ← Text.startsWith_iff, opening?, kinds, List.filter]
  cases Text.startsWith (tags.start .expression) text <;>
    cases Text.startsWith (tags.start .control) text <;>
    cases Text.startsWith (tags.start .include) text <;>
    simp [longer] <;> grind

theorem opens_of_opening? {tags : Tags} {kind : TagKind} {text : List Char}
    (found : opening? tags text = some kind) : Opens tags kind text := by
  simp only [Opens, TagKind.forall_iff, ← Text.startsWith_iff]
  simp only [opening?, kinds, List.filter] at found
  cases expression : Text.startsWith (tags.start .expression) text <;>
    cases control : Text.startsWith (tags.start .control) text <;>
    cases included : Text.startsWith (tags.start .include) text <;>
    simp [expression, control, included, longer] at found ⊢ <;>
    grind [TagKind.rank]

theorem opening?_eq_some_iff {tags : Tags} {kind : TagKind} {text : List Char} :
    opening? tags text = some kind ↔ Opens tags kind text := by
  constructor
  · exact opens_of_opening?
  · intro opens
    cases found : opening? tags text with
    | none => exact absurd opens.1 (opening?_eq_none_iff.mp found kind)
    | some other => rw [(opens_of_opening? found).unique opens]

def Stops (tags : Tags) (rest : List Char) : Prop :=
  rest = [] ∨ ∃ kind, Opens tags kind rest

/-- The segment is cut as it has to be where it stands before the rest of the source. -/
def Fits (tags : Tags) (rest : List Char) : Segment → Prop
  | .plain text => text ≠ [] ∧ ∀ kind, Text.Avoids (tags.start kind) text rest
  | .tag kind inner =>
      Opens tags kind ((Segment.tag kind inner).source tags ++ rest) ∧
        Text.Avoids (tags.stop kind) inner (tags.stop kind ++ rest)

theorem Fits.source_ne_nil {tags : Tags} {rest : List Char} {segment : Segment}
    (fits : segment.Fits tags rest) : segment.source tags ≠ [] := by
  cases segment with
  | plain text => exact fits.1
  | tag kind inner => simp [source, tags.start_ne_nil kind]

def IsPlain : Segment → Prop
  | .plain _ => True
  | .tag _ _ => False

def sources (tags : Tags) (segments : List Segment) : List Char :=
  segments.flatMap (source tags)

@[simp] theorem sources_nil (tags : Tags) : sources tags [] = [] := rfl

@[simp] theorem sources_cons (tags : Tags) (segment : Segment) (segments : List Segment) :
    sources tags (segment :: segments) = segment.source tags ++ sources tags segments := by
  simp [sources]

@[simp] theorem sources_append (tags : Tags) (segments others : List Segment) :
    sources tags (segments ++ others) = sources tags segments ++ sources tags others := by
  simp [sources]

def Covers (tags : Tags) (rest : List Char) : List Segment → Prop
  | [] => True
  | segment :: segments =>
      segment.Fits tags (sources tags segments ++ rest) ∧ Covers tags rest segments

def Separated (segments : List Segment) : Prop :=
  segments.IsChain fun first second => ¬ (first.IsPlain ∧ second.IsPlain)

structure Segmentation (tags : Tags) (source : List Char) (segments : List Segment) : Prop where
  whole : source = sources tags segments
  covers : Covers tags [] segments
  separated : Separated segments

structure IncludeAfter (tags : Tags) (before : List Segment) (inner rest : List Char) : Prop where
  covers : Covers tags ((Segment.tag .include inner).source tags ++ rest) before
  separated : Separated before
  fits : (Segment.tag .include inner).Fits tags rest

theorem covers_append {tags : Tags} {rest : List Char} {segments others : List Segment} :
    Covers tags rest (segments ++ others) ↔
      Covers tags (sources tags others ++ rest) segments ∧ Covers tags rest others := by
  induction segments with
  | nil => simp [Covers]
  | cons segment segments ih =>
      simp only [List.cons_append, Covers, ih, sources_append, List.append_assoc, and_assoc]

/-! What the scanner finds where a segment fits. -/

theorem splitPlain_of_avoids {tags : Tags} {text rest : List Char}
    (free : ∀ kind, Text.Avoids (tags.start kind) text rest) (stops : Stops tags rest) :
    splitPlain tags (text ++ rest) = (text, rest) := by
  induction text with
  | nil =>
      rcases stops with rfl | ⟨kind, opens⟩
      · rfl
      · have found := opening?_eq_some_iff.mpr opens
        cases rest with
        | nil => rfl
        | cons character rest => simp [splitPlain, found]
  | cons character text ih =>
      simp only [Text.avoids_cons] at free
      have missing : opening? tags (character :: (text ++ rest)) = none :=
        opening?_eq_none_iff.mpr fun kind => (free kind).1
      simp [splitPlain, missing, ih fun kind => (free kind).2]

theorem avoids_splitPlain (tags : Tags) (text : List Char) (kind : TagKind) :
    Text.Avoids (tags.start kind) (splitPlain tags text).1 (splitPlain tags text).2 := by
  induction text with
  | nil => simp [splitPlain]
  | cons character rest ih =>
      rw [splitPlain]
      split
      · simp
      · rename_i missing
        rw [Option.not_isSome_iff_eq_none, opening?_eq_none_iff] at missing
        rw [Text.avoids_cons, splitPlain_append]
        exact ⟨missing kind, ih⟩

theorem stops_splitPlain (tags : Tags) (text : List Char) :
    Stops tags (splitPlain tags text).2 := by
  induction text with
  | nil => exact .inl rfl
  | cons character rest ih =>
      rw [splitPlain]
      split
      · rename_i found
        obtain ⟨kind, opening⟩ := Option.isSome_iff_exists.mp found
        exact .inr ⟨kind, opening?_eq_some_iff.mp opening⟩
      · exact ih

theorem cut_plain {tags : Tags} {text rest : List Char} (fits : (plain text).Fits tags rest)
    (stops : Stops tags rest) : cut tags (text ++ rest) = (cut tags rest).cons (.plain text) := by
  obtain ⟨filled, free⟩ := fits
  cases text with
  | nil => contradiction
  | cons first text =>
      simp only [Text.avoids_cons] at free
      have missing : opening? tags (first :: (text ++ rest)) = none :=
        opening?_eq_none_iff.mpr fun kind => (free kind).1
      have parts := splitPlain_of_avoids (fun kind => (free kind).2) stops
      rw [List.cons_append, cut]
      split
      · rw [parts]
      · simp_all

theorem cut_tag {tags : Tags} {kind : TagKind} {inner rest : List Char}
    (fits : (tag kind inner).Fits tags rest) :
    cut tags ((tag kind inner).source tags ++ rest) = (cut tags rest).cons (.tag kind inner) := by
  obtain ⟨opens, avoids⟩ := fits
  have opening := opening?_eq_some_iff.mpr opens
  have body : Text.cutAt? (tags.stop kind)
      (((tag kind inner).source tags ++ rest).drop (tags.start kind).length) =
        some (inner, rest) := by
    simpa [source] using Text.cutAt?_of_avoids avoids
  cases whole : (tag kind inner).source tags ++ rest with
  | nil => simp [source, tags.start_ne_nil kind] at whole
  | cons first text =>
      rw [whole] at opening body
      rw [cut]
      split
      · simp_all
      · rename_i other found
        obtain rfl : kind = other := by simpa [opening] using found
        split <;> simp_all

theorem cut_sources {tags : Tags} {rest : List Char} {segments : List Segment}
    (covers : Covers tags rest segments) (separated : Separated segments)
    (stops : Stops tags rest) :
    cut tags (sources tags segments ++ rest) = segments.foldr Cut.cons (cut tags rest) := by
  induction segments with
  | nil => rfl
  | cons segment segments ih =>
      obtain ⟨fits, later⟩ := covers
      have back := ih later separated.tail
      rw [sources_cons, List.append_assoc, List.foldr_cons, ← back]
      cases segment with
      | tag kind inner => exact cut_tag fits
      | plain text =>
          apply cut_plain fits
          cases segments with
          | nil => exact stops
          | cons next segments =>
              have apart := (List.isChain_cons_cons.mp separated).1
              cases next with
              | plain other => simp [IsPlain] at apart
              | tag kind inner =>
                  rw [sources_cons, List.append_assoc]
                  exact .inr ⟨kind, later.1.1⟩

theorem foldr_cons (segments : List Segment) (cut : Cut) :
    segments.foldr Cut.cons cut = ⟨segments ++ cut.segments, cut.unclosed⟩ := by
  induction segments with
  | nil => rfl
  | cons segment segments ih => simp [Cut.cons, ih]

theorem cut_unclosed {tags : Tags} {kind : TagKind} {first : Char} {rest : List Char}
    (opening : opening? tags (first :: rest) = some kind)
    (missing : Text.cutAt? (tags.stop kind)
      ((first :: rest).drop (tags.start kind).length) = none) :
    cut tags (first :: rest) = ⟨[], some kind⟩ := by
  rw [cut]
  split
  · rename_i none
    rw [opening] at none
    contradiction
  · rename_i other found
    obtain rfl : kind = other := by simpa [opening] using found
    split
    · rfl
    · rename_i inner after body
      rw [missing] at body
      contradiction

def LeftOver (tags : Tags) (rest : List Char) : Option TagKind → Prop
  | none => rest = []
  | some kind =>
      Opens tags kind rest ∧ ¬ tags.stop kind <:+: rest.drop (tags.start kind).length

theorem not_isPlain_head_cut {tags : Tags} {rest : List Char} (stops : Stops tags rest) :
    ∀ segment ∈ (cut tags rest).segments.head?, ¬ segment.IsPlain := by
  rcases stops with rfl | ⟨kind, opens⟩
  · simp [cut]
  · have found := opening?_eq_some_iff.mpr opens
    cases rest with
    | nil => simp [cut]
    | cons first rest =>
        rw [cut]
        split
        · simp_all
        · split <;> simp [Cut.cons, IsPlain]

theorem fits_splitPlain {tags : Tags} {text : List Char} (filled : text ≠ [])
    (missing : opening? tags text = none) :
    (plain (splitPlain tags text).1).Fits tags (splitPlain tags text).2 := by
  obtain ⟨first, rest, rfl⟩ := List.exists_cons_of_ne_nil filled
  exact ⟨by simp [splitPlain, missing], avoids_splitPlain tags _⟩

theorem fits_tag_of_cutAt? {tags : Tags} {kind : TagKind} {text inner after : List Char}
    (opening : opening? tags text = some kind)
    (body : Text.cutAt? (tags.stop kind) (text.drop (tags.start kind).length) =
      some (inner, after)) :
    text = (tag kind inner).source tags ++ after ∧ (tag kind inner).Fits tags after := by
  have opens := opening?_eq_some_iff.mp opening
  obtain ⟨same, avoids⟩ := Text.cutAt?_eq_some_iff.mp body
  have whole : text = (tag kind inner).source tags ++ after := by
    obtain ⟨behind, split⟩ := opens.1
    rw [← split, List.drop_left] at same
    simp [Segment.source, ← split, same]
  exact ⟨whole, whole ▸ opens, avoids⟩

theorem exists_leftOver_cut (tags : Tags) (source : List Char) :
    ∃ rest, source = sources tags (cut tags source).segments ++ rest ∧
      Covers tags rest (cut tags source).segments ∧ Separated (cut tags source).segments ∧
      LeftOver tags rest (cut tags source).unclosed := by
  -- What is left over stays the same on the way back from the end; only the front grows.
  induction source using cut.induct tags with
  | case1 => exact ⟨[], by simp [cut, Covers, Separated, LeftOver]⟩
  | case2 first rest missing ih =>
      obtain ⟨left, whole, covers, separated, leftOver⟩ := ih
      have fits := fits_splitPlain (by simp) missing
      have stops := stops_splitPlain tags rest
      have parts := splitPlain_append tags (first :: rest)
      simp only [splitPlain, missing, Option.isSome_none, Bool.false_eq_true, if_false]
        at fits parts
      rw [← parts, cut_plain fits stops]
      refine ⟨left, ?_, ⟨whole ▸ fits, covers⟩, ?_, leftOver⟩
      · rw [Cut.cons, sources_cons, List.append_assoc, ← whole, Segment.source]
      · apply List.isChain_cons.mpr
        refine ⟨?_, separated⟩
        intro next head both
        exact not_isPlain_head_cut stops next head both.2
  | case3 first rest kind opening missing =>
      rw [cut_unclosed opening missing]
      exact ⟨first :: rest, rfl, trivial, .nil,
        opening?_eq_some_iff.mp opening, Text.cutAt?_eq_none_iff.mp missing⟩
  | case4 first rest kind opening inner after body ih =>
      obtain ⟨left, whole, covers, separated, leftOver⟩ := ih
      obtain ⟨start, fits⟩ := fits_tag_of_cutAt? opening body
      rw [start, cut_tag fits]
      refine ⟨left, ?_, ⟨whole ▸ fits, covers⟩, ?_, leftOver⟩
      · rw [Cut.cons, sources_cons, List.append_assoc, ← whole]
      · apply List.isChain_cons.mpr
        refine ⟨?_, separated⟩
        simp [IsPlain]

theorem cut_eq_iff_segmentation {tags : Tags} {source : List Char} {segments : List Segment} :
    cut tags source = ⟨segments, none⟩ ↔ Segmentation tags source segments := by
  constructor
  · intro result
    obtain ⟨rest, whole, covers, separated, leftOver⟩ := exists_leftOver_cut tags source
    rw [result] at whole covers separated leftOver
    obtain rfl : rest = [] := leftOver
    exact ⟨by simpa using whole, covers, separated⟩
  · intro segmentation
    have parts := cut_sources segmentation.covers segmentation.separated (.inl rfl)
    rw [List.append_nil, ← segmentation.whole, foldr_cons] at parts
    simpa [cut] using parts

theorem Segmentation.unique {tags : Tags} {source : List Char} {segments others : List Segment}
    (segmentation : Segmentation tags source segments)
    (other : Segmentation tags source others) : segments = others := by
  have first := cut_eq_iff_segmentation.mpr segmentation
  have second := cut_eq_iff_segmentation.mpr other
  exact congrArg Cut.segments (first.symm.trans second)

end Segment

end Stencil
