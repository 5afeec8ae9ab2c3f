import Stencil.Proofs.Token.Segmentation

/-!
Segments keep where they are when the text behind them changes, as long as no start delimiter
reaches over the seam. Segments that are joined at a seam may leave plain text on both sides of it;
fused into one, they are a way to cut the joined source.
-/

namespace Stencil

/-- The needle occurs in the text so that it begins before the boundary and ends behind it. -/
def Text.Crosses (needle text : List Char) (boundary : Nat) : Prop :=
  ∃ offset, offset < boundary ∧ boundary < offset + needle.length ∧ needle <+: text.drop offset

namespace Text

instance (needle text : List Char) (boundary : Nat) : Decidable (Crosses needle text boundary) :=
  inferInstanceAs (Decidable (∃ offset, offset < boundary ∧
    boundary < offset + needle.length ∧ needle <+: text.drop offset))

theorem Crosses.append {needle text : List Char} {boundary : Nat}
    (crosses : Crosses needle text boundary) (front : List Char) :
    Crosses needle (front ++ text) (front.length + boundary) := by
  obtain ⟨offset, before, behind, occurs⟩ := crosses
  refine ⟨front.length + offset, by omega, by omega, ?_⟩
  rwa [List.drop_length_add_append]

theorem prefix_drop_append {needle front : List Char} {offset : Nat} (rest : List Char)
    (occurs : needle <+: front.drop offset) : needle <+: (front ++ rest).drop offset := by
  rw [List.drop_append]
  exact occurs.trans (List.prefix_append _ _)

theorem prefix_drop_of_fits {needle front rest : List Char} {offset : Nat}
    (occurs : needle <+: (front ++ rest).drop offset)
    (fits : offset + needle.length ≤ front.length) : needle <+: front.drop offset := by
  rw [List.drop_append_of_le_length (by omega)] at occurs
  refine List.prefix_of_prefix_length_le occurs (List.prefix_append _ _) ?_
  rw [List.length_drop]
  omega

theorem prefix_drop_of_not_crosses {needle front rest : List Char} {offset : Nat}
    (apart : ¬ Crosses needle (front ++ rest) front.length) (below : offset < front.length)
    (occurs : needle <+: (front ++ rest).drop offset) : needle <+: front.drop offset := by
  apply prefix_drop_of_fits occurs
  by_contra beyond
  exact apart ⟨offset, below, by omega, occurs⟩

theorem Avoids.change {needle text rest : List Char} (avoids : Avoids needle text (needle ++ rest))
    (other : List Char) : Avoids needle text (needle ++ other) := by
  intro offset below occurs
  rw [← List.append_assoc] at occurs
  have inside := prefix_drop_of_fits occurs (by rw [List.length_append]; omega)
  apply avoids offset below
  rw [← List.append_assoc]
  exact prefix_drop_append rest inside

end Text

namespace Segment

theorem Fits.change {tags : Tags} {segment : Segment} {behind rest other : List Char}
    (fits : segment.Fits tags (behind ++ rest))
    (apart : ∀ kind, ¬ Text.Crosses (tags.start kind)
      ((segment.source tags ++ behind) ++ other) (segment.source tags ++ behind).length) :
    segment.Fits tags (behind ++ other) := by
  cases segment with
  | plain text =>
      refine ⟨fits.1, ?_⟩
      intro kind offset below occurs
      rw [← List.append_assoc] at occurs
      have inside := Text.prefix_drop_of_not_crosses (apart kind)
        (by simp only [source, List.length_append]; omega) occurs
      apply fits.2 kind offset below
      rw [← List.append_assoc]
      exact Text.prefix_drop_append rest inside
  | tag kind inner =>
      obtain ⟨opens, avoids⟩ := fits
      have filled : 0 < ((tag kind inner).source tags ++ behind).length := by
        have := List.length_pos_iff.mpr (tags.start_ne_nil kind)
        simp only [source, List.length_append]
        omega
      refine ⟨⟨?_, ?_⟩, ?_⟩
      · simp [source]
      · intro rival matches_
        rw [← List.append_assoc] at matches_
        have inside := Text.prefix_drop_of_not_crosses (apart rival) filled matches_
        apply opens.2 rival
        rw [← List.append_assoc]
        exact Text.prefix_drop_append rest inside
      · exact avoids.change _

theorem Covers.change {tags : Tags} {rest other : List Char} {segments : List Segment}
    (covers : Covers tags rest segments)
    (apart : ∀ kind, ¬ Text.Crosses (tags.start kind) (sources tags segments ++ other)
      (sources tags segments).length) :
    Covers tags other segments := by
  induction segments with
  | nil => trivial
  | cons segment segments ih =>
      obtain ⟨fits, later⟩ := covers
      simp only [sources_cons] at apart
      refine ⟨fits.change apart, ih later ?_⟩
      intro kind crosses
      apply apart kind
      have moved := crosses.append (segment.source tags)
      rwa [← List.append_assoc, ← List.length_append] at moved

def glue : Segment → List Segment → List Segment
  | .plain text, .plain other :: segments => .plain (text ++ other) :: segments
  | segment, segments => segment :: segments

def fuse (segments : List Segment) : List Segment := segments.foldr glue []

@[simp] theorem sources_glue (tags : Tags) (segment : Segment) (segments : List Segment) :
    sources tags (glue segment segments) = segment.source tags ++ sources tags segments := by
  unfold glue
  split
  · simp [source]
  · simp

theorem sources_fuse (tags : Tags) (segments : List Segment) :
    sources tags (fuse segments) = sources tags segments := by
  induction segments with
  | nil => rfl
  | cons segment segments ih =>
      rw [fuse, List.foldr_cons, sources_glue, sources_cons]
      exact congrArg (segment.source tags ++ ·) ih

theorem covers_glue {tags : Tags} {rest : List Char} {segment : Segment} {segments : List Segment}
    (fits : segment.Fits tags (sources tags segments ++ rest)) (covers : Covers tags rest segments) :
    Covers tags rest (glue segment segments) := by
  unfold glue
  split
  · rename_i text other segments
    refine ⟨⟨?_, ?_⟩, covers.2⟩
    · simp [fits.1]
    · intro kind
      have front := fits.2 kind
      rw [sources_cons, List.append_assoc] at front
      exact Text.avoids_append.mpr ⟨front, covers.1.2 kind⟩
  · exact ⟨fits, covers⟩

theorem covers_fuse {tags : Tags} {rest : List Char} {segments : List Segment}
    (covers : Covers tags rest segments) : Covers tags rest (fuse segments) := by
  induction segments with
  | nil => trivial
  | cons segment segments ih =>
      apply covers_glue
      · rw [← fuse, sources_fuse]
        exact covers.1
      · exact ih covers.2

theorem separated_glue {segment : Segment} {segments : List Segment}
    (separated : Separated segments) : Separated (glue segment segments) := by
  unfold glue
  split
  · rename_i text other segments
    obtain ⟨apart, later⟩ := List.isChain_cons.mp separated
    exact List.isChain_cons.mpr ⟨apart, later⟩
  · rename_i different
    apply List.isChain_cons.mpr
    refine ⟨?_, separated⟩
    intro next head both
    cases segment with
    | tag kind inner => exact both.1
    | plain text =>
        cases next with
        | tag kind inner => exact both.2
        | plain other =>
            obtain ⟨later, rfl⟩ := List.head?_eq_some_iff.mp head
            exact different text other later rfl rfl

theorem separated_fuse (segments : List Segment) : Separated (fuse segments) := by
  induction segments with
  | nil => exact .nil
  | cons segment segments ih => exact separated_glue ih

theorem segmentation_fuse {tags : Tags} {segments : List Segment}
    (covers : Covers tags [] segments) :
    Segmentation tags (sources tags segments) (fuse segments) :=
  ⟨(sources_fuse tags segments).symm, covers_fuse covers, separated_fuse segments⟩

end Segment

end Stencil
