import Stencil.Proofs.Includes.Origins

/-!
The tags that errors of the scanner point at. Every place that scanning a file comes to is the place
of a segment in the text of that file, so that an error is located where the tag starts that fails.
-/

namespace Stencil

namespace Segment

def TagAt (tags : Tags) (kind : TagKind) (inner rest : List Char) : Prop :=
  ∃ behind, rest = (tag kind inner).source tags ++ behind ∧ (tag kind inner).Fits tags behind

theorem TagAt.opens {tags : Tags} {kind : TagKind} {inner rest : List Char}
    (starts : TagAt tags kind inner rest) : Opens tags kind rest := by
  obtain ⟨behind, rfl, fits⟩ := starts
  exact fits.1

theorem exists_pointsAt_of_cut {tags : Tags} {text : List Char} {before after : List Segment}
    {segment : Segment} (split : (cut tags text).segments = before ++ segment :: after)
    (file : String) :
    ∃ behind, segment.Fits tags behind ∧
      (((Cursor.ofSource text).advance (sources tags before).length).location file).PointsAt text
        (segment.source tags ++ behind) := by
  obtain ⟨left, whole, covers, _, _⟩ := exists_leftOver_cut tags text
  rw [split] at whole covers
  have fits := (covers_append.mp covers).2.1
  have same : text = sources tags before ++
      (segment.source tags ++ (sources tags after ++ left)) := by
    rw [whole, sources_append, sources_cons, List.append_assoc, List.append_assoc]
  have place := Cursor.pointsAt_of_append file (sources tags before)
    (segment.source tags ++ (sources tags after ++ left))
  rw [← same] at place
  exact ⟨_, fits, place⟩

theorem exists_pointsAt_of_unclosed {tags : Tags} {text : List Char} {kind : TagKind}
    (unclosed : (cut tags text).unclosed = some kind) (file : String) :
    ∃ rest, LeftOver tags rest (some kind) ∧
      (((Cursor.ofSource text).advance (sources tags (cut tags text).segments).length).location
        file).PointsAt text rest := by
  obtain ⟨left, whole, _, _, leftOver⟩ := exists_leftOver_cut tags text
  have place := Cursor.pointsAt_of_append file (sources tags (cut tags text).segments) left
  rw [← whole] at place
  exact ⟨left, unclosed ▸ leftOver, place⟩

end Segment

namespace Token

open Segment

structure Opening.Locates (opening : Opening) (location : Location) (rest : List Char) : Prop where
  file : location.file = opening.file
  place : location.PointsAt opening.text rest

variable {tags : Tags} {load : Loader} {opening : Opening}

theorem Opening.ComesTo.locates {place : Cursor} {segment : Segment}
    (comes : opening.ComesTo tags place segment) :
    ∃ behind, segment.Fits tags behind ∧
      opening.Locates (place.location opening.file) (segment.source tags ++ behind) := by
  obtain ⟨before, after, split, rfl⟩ := Token.ComesTo.exists_front comes
  obtain ⟨behind, fits, points⟩ := exists_pointsAt_of_cut split opening.file
  exact ⟨behind, fits, rfl, points⟩

theorem Opening.ComesTo.locates_tag {place : Cursor} {kind : TagKind} {inner : List Char}
    (comes : opening.ComesTo tags place (.tag kind inner)) :
    ∃ rest, TagAt tags kind inner rest ∧ opening.Locates (place.location opening.file) rest := by
  obtain ⟨behind, fits, located⟩ := Opening.ComesTo.locates comes
  exact ⟨_, ⟨behind, rfl, fits⟩, located⟩

end Token

open Segment Token

inductive ScanFault.IsAt (tags : Tags) (load : Loader) (opening : Opening) (rest : List Char) :
    ScanFault → Prop
  | unclosed {kind} : Opens tags kind rest →
      ¬ tags.stop kind <:+: rest.drop (tags.start kind).length →
      IsAt tags load opening rest (.unclosed kind (String.ofList (tags.stop kind)))
  | unknownControl {inner} : TagAt tags .control inner rest → control? inner = none →
      IsAt tags load opening rest .unknownControl
  | circular {inner} : TagAt tags .include inner rest →
      includeTarget opening.file inner ∈ opening.stack →
      IsAt tags load opening rest (.circular (includeTarget opening.file inner))
  | tooDeep {inner} : TagAt tags .include inner rest →
      opening.stack.length = maxIncludeDepth + 1 → IsAt tags load opening rest .tooDeep
  | unreadable {inner} : TagAt tags .include inner rest →
      load (includeTarget opening.file inner) = none →
      IsAt tags load opening rest (.unreadable (includeTarget opening.file inner))

theorem ScanFault.IsAt.opens {tags : Tags} {load : Loader} {opening : Opening} {rest : List Char}
    {fault : ScanFault} (isAt : fault.IsAt tags load opening rest) :
    ∃ kind, Opens tags kind rest := by
  cases isAt with
  | unclosed opens _ => exact ⟨_, opens⟩
  | unknownControl starts _ => exact ⟨_, starts.opens⟩
  | circular starts _ => exact ⟨_, starts.opens⟩
  | tooDeep starts _ => exact ⟨_, starts.opens⟩
  | unreadable starts _ => exact ⟨_, starts.opens⟩

theorem Token.Opening.Fails.locates {tags : Tags} {load : Loader} {opening : Opening}
    {error : ScanError} (fails : opening.Fails tags load error) :
    ∃ rest, opening.Locates error.location rest ∧ error.fault.IsAt tags load opening rest := by
  cases fails with
  | unclosed unclosed =>
      obtain ⟨rest, ⟨opens, absent⟩, points⟩ := exists_pointsAt_of_unclosed unclosed opening.file
      exact ⟨rest, ⟨rfl, points⟩, .unclosed opens absent⟩
  | unknownControl comes unknown =>
      obtain ⟨rest, starts, located⟩ := Opening.ComesTo.locates_tag comes
      exact ⟨rest, located, .unknownControl starts unknown⟩
  | circular comes target circular =>
      obtain ⟨inner, rfl, rfl⟩ := target?_eq_some_iff.mp target
      obtain ⟨rest, starts, located⟩ := Opening.ComesTo.locates_tag comes
      exact ⟨rest, located, .circular starts circular⟩
  | tooDeep comes target _ deep =>
      obtain ⟨inner, rfl, rfl⟩ := target?_eq_some_iff.mp target
      obtain ⟨rest, starts, located⟩ := Opening.ComesTo.locates_tag comes
      exact ⟨rest, located, .tooDeep starts deep⟩
  | unreadable comes target _ missing =>
      obtain ⟨inner, rfl, rfl⟩ := target?_eq_some_iff.mp target
      obtain ⟨rest, starts, located⟩ := Opening.ComesTo.locates_tag comes
      exact ⟨rest, located, .unreadable starts missing⟩

end Stencil
