import Stencil.Proofs.Outcome
import Stencil.Proofs.Token.Place
import Stencil.Proofs.Token.Segmentation
import Stencil.Token.Scan

/-!
How far scanning a file comes. It goes on from a segment to the next one when the segment has been
read, so that every token and every error comes from a segment that scanning has come to, and from
the place where that segment stands.
-/

namespace Stencil

def Token.writtenTarget (file : String) (inner : List Char) : Path :=
  (Path.ofString file).directory.join ⟨Text.trim inner⟩

def Segment.target? (file : String) : Segment → Option Path
  | .tag .include inner => some (Token.writtenTarget file inner).normalize
  | _ => none

namespace Token

open Segment

/-- Scanning segments from a cursor on comes to one of them, at the cursor where it stands. -/
inductive ComesTo (including : Path → Location → Except ScanError (List Token)) (tags : Tags)
    (file : String) : Cursor → List Segment → Cursor → Segment → Prop
  | here {cursor segment segments} :
      ComesTo including tags file cursor (segment :: segments) cursor segment
  | later {cursor first segments front place segment} :
      ofSegment including file (cursor.location file) first = .ok front →
      ComesTo including tags file (cursor.advance (first.source tags).length) segments place segment →
      ComesTo including tags file cursor (first :: segments) place segment

def reached (including : Path → Location → Except ScanError (List Token)) (tags : Tags)
    (file : String) : Cursor → List Segment → List Path
  | _, [] => []
  | cursor, segment :: segments =>
      (segment.target? file).toList ++
        match ofSegment including file (cursor.location file) segment with
        | .error _ => []
        | .ok _ => reached including tags file
            (cursor.advance (segment.source tags).length) segments

variable {including : Path → Location → Except ScanError (List Token)} {tags : Tags}
  {file : String} {cursor : Cursor} {segments : List Segment}

theorem target?_eq_some_iff {segment : Segment} {path : Path} :
    segment.target? file = some path ↔
      ∃ inner, segment = .tag .include inner ∧ (writtenTarget file inner).normalize = path := by
  match segment with
  | .plain text => simp [target?]
  | .tag .expression inner => simp [target?]
  | .tag .control inner => simp [target?]
  | .tag .include inner => simp [target?]

theorem ofSegment_of_target? {location : Location} {segment : Segment} {path : Path}
    (target : segment.target? file = some path) :
    ofSegment including file location segment = including path location := by
  obtain ⟨inner, rfl, rfl⟩ := target?_eq_some_iff.mp target
  rfl

theorem ComesTo.exists_front {place : Cursor} {segment : Segment}
    (comes : ComesTo including tags file cursor segments place segment) :
    ∃ before after, segments = before ++ segment :: after ∧
      place = cursor.advance (sources tags before).length := by
  induction comes with
  | here => exact ⟨[], _, rfl, rfl⟩
  | @later cursor first segments front place segment read comes ih =>
      obtain ⟨before, after, rfl, rfl⟩ := ih
      refine ⟨first :: before, after, rfl, ?_⟩
      rw [sources_cons, List.length_append, Cursor.advance_add]

theorem mem_reached_iff {path : Path} :
    path ∈ reached including tags file cursor segments ↔
      ∃ place segment, ComesTo including tags file cursor segments place segment ∧
        segment.target? file = some path := by
  induction segments generalizing cursor with
  | nil =>
      simp only [reached, List.not_mem_nil, false_iff]
      rintro ⟨place, segment, comes, _⟩
      cases comes
  | cons first segments ih =>
      rw [reached, List.mem_append, Option.mem_toList]
      constructor
      · rintro (target | later)
        · exact ⟨cursor, first, .here, target⟩
        · split at later
          · simp at later
          · rename_i front read
            obtain ⟨place, segment, comes, target⟩ := ih.mp later
            exact ⟨place, segment, .later read comes, target⟩
      · rintro ⟨place, segment, comes, target⟩
        cases comes with
        | here => exact .inl target
        | later read comes =>
            right
            rw [read]
            exact ih.mpr ⟨place, segment, comes, target⟩

/-- An error comes from a segment that scanning has come to, or from the tag behind all of them that
is never closed. -/
theorem ofSegments_eq_error {unclosed : Option TagKind} {error : ScanError}
    (failed : ofSegments including tags file unclosed cursor segments = .error error) :
    (∃ place segment, ComesTo including tags file cursor segments place segment ∧
      ofSegment including file (place.location file) segment = .error error) ∨
    ∃ kind, unclosed = some kind ∧
      error = ⟨.unclosed kind (String.ofList (tags.stop kind)),
        (cursor.advance (sources tags segments).length).location file⟩ := by
  induction segments generalizing cursor with
  | nil =>
      cases unclosed with
      | none => simp [ofSegments] at failed
      | some kind => exact .inr ⟨kind, rfl, (Except.error.inj failed).symm⟩
  | cons first segments ih =>
      rw [ofSegments] at failed
      cases read : ofSegment including file (cursor.location file) first with
      | error own =>
          rw [read, Outcome.error_bind, Except.error.injEq] at failed
          exact .inl ⟨cursor, first, .here, failed ▸ read⟩
      | ok front =>
          rw [read, Outcome.ok_bind] at failed
          cases rest : ofSegments including tags file unclosed
              (cursor.advance (first.source tags).length) segments with
          | ok back => simp [rest] at failed
          | error other =>
              rw [rest, Outcome.error_bind, Except.error.injEq] at failed
              rcases ih (failed ▸ rest) with ⟨place, segment, comes, fails⟩ | ⟨kind, open', same⟩
              · exact .inl ⟨place, segment, .later read comes, fails⟩
              · refine .inr ⟨kind, open', ?_⟩
                rw [same, sources_cons, List.length_append, Cursor.advance_add]

theorem exists_comesTo_of_mem {unclosed : Option TagKind} {tokens : List Token} {token : Token}
    (read : ofSegments including tags file unclosed cursor segments = .ok tokens)
    (member : token ∈ tokens) :
    ∃ place segment front, ComesTo including tags file cursor segments place segment ∧
      ofSegment including file (place.location file) segment = .ok front ∧ token ∈ front := by
  induction segments generalizing cursor tokens with
  | nil =>
      cases unclosed with
      | none =>
          obtain rfl : [] = tokens := Except.ok.inj read
          simp at member
      | some kind => simp [ofSegments] at read
  | cons first segments ih =>
      simp only [ofSegments, Outcome.bind_eq_ok_iff] at read
      obtain ⟨front, firstRead, back, laterRead, joined⟩ := read
      obtain rfl : front ++ back = tokens := Except.ok.inj joined
      rcases List.mem_append.mp member with inFront | inBack
      · exact ⟨cursor, first, front, .here, firstRead, inFront⟩
      · obtain ⟨place, segment, said, comes, segmentRead, saidMember⟩ := ih laterRead inBack
        exact ⟨place, segment, said, .later firstRead comes, segmentRead, saidMember⟩

end Token

end Stencil
