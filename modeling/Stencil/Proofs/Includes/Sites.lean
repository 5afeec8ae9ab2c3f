import Stencil.Proofs.Token.Progress

/-!
A file apart from what it includes. Scanning it comes to include tags until something of its own
fails; the file is scanned to its end exactly if nothing of its own fails and every include that it
comes to is answered.
-/

namespace Stencil.Token

open Segment

def leaveOut : Path → Location → Except ScanError (List Token) := fun _ _ => .ok []

def reachedIn (including : Path → Location → Except ScanError (List Token)) (tags : Tags)
    (file : String) (source : List Char) : List Path :=
  reached including tags file (.ofSource source) (cut tags source).segments

def sites (tags : Tags) (file : String) (source : List Char) : List Path :=
  reachedIn leaveOut tags file source

def Legible (tags : Tags) (file : String) (source : List Char) : Prop :=
  ∃ tokens, ofFile leaveOut tags file source = .ok tokens

variable {including : Path → Location → Except ScanError (List Token)} {tags : Tags}
  {file : String}

theorem ofSegment_of_own {location : Location} {segment : Segment}
    (own : segment.target? file = none) :
    ofSegment including file location segment = ofSegment leaveOut file location segment := by
  match segment with
  | .plain text => rfl
  | .tag .expression inner => rfl
  | .tag .control inner => rfl
  | .tag .include inner => simp [target?] at own

theorem ComesTo.alone {cursor place : Cursor} {segments : List Segment} {segment : Segment}
    (comes : ComesTo including tags file cursor segments place segment) :
    ComesTo leaveOut tags file cursor segments place segment := by
  induction comes with
  | here => exact .here
  | @later cursor first segments front place segment read comes ih =>
      cases target : first.target? file with
      | none =>
          rw [ofSegment_of_own target] at read
          exact .later read ih
      | some path => exact .later (ofSegment_of_target? target) ih

theorem mem_sites_of_reachedIn {source : List Char} {path : Path}
    (comes : path ∈ reachedIn including tags file source) : path ∈ sites tags file source := by
  obtain ⟨place, segment, comes, target⟩ := mem_reached_iff.mp comes
  exact mem_reached_iff.mpr ⟨place, segment, comes.alone, target⟩

theorem ComesTo.of_alone {unclosed : Option TagKind} {cursor place : Cursor}
    {segments : List Segment} {segment : Segment} {tokens : List Token}
    (comes : ComesTo leaveOut tags file cursor segments place segment)
    (read : ofSegments including tags file unclosed cursor segments = .ok tokens) :
    ComesTo including tags file cursor segments place segment ∧
      ∃ front, ofSegment including file (place.location file) segment = .ok front := by
  induction comes generalizing tokens with
  | here =>
      obtain ⟨front, first, _⟩ := Outcome.bind_eq_ok_iff.mp read
      exact ⟨.here, front, first⟩
  | later _ comes ih =>
      obtain ⟨front, first, others⟩ := Outcome.bind_eq_ok_iff.mp read
      obtain ⟨back, rest, _⟩ := Outcome.bind_eq_ok_iff.mp others
      obtain ⟨reaches, answered⟩ := ih rest
      exact ⟨.later first reaches, answered⟩

/-- A file that is scanned to its end has had all its include tags answered. -/
theorem mem_reachedIn_of_sites {source : List Char} {tokens : List Token} {path : Path}
    (read : ofFile including tags file source = .ok tokens) (site : path ∈ sites tags file source) :
    path ∈ reachedIn including tags file source ∧
      ∃ location inside, including path location = .ok inside := by
  obtain ⟨place, segment, comes, target⟩ := mem_reached_iff.mp site
  obtain ⟨reaches, front, answered⟩ := comes.of_alone read
  rw [ofSegment_of_target? target] at answered
  exact ⟨mem_reached_iff.mpr ⟨place, segment, reaches, target⟩, _, front, answered⟩

section Answers

variable {answers : Path → Prop} {cursor : Cursor} {segments : List Segment}

theorem ofSegments_cons_succeeds_iff {unclosed : Option TagKind} {segment : Segment} :
    (∃ tokens, ofSegments including tags file unclosed cursor (segment :: segments) =
        .ok tokens) ↔
      (∃ front, ofSegment including file (cursor.location file) segment = .ok front) ∧
        ∃ back, ofSegments including tags file unclosed
          (cursor.advance (segment.source tags).length) segments = .ok back := by
  simp only [ofSegments, Outcome.bind_eq_ok_iff]
  constructor
  · rintro ⟨_, front, first, back, others, _⟩
    exact ⟨⟨front, first⟩, back, others⟩
  · rintro ⟨⟨front, first⟩, back, others⟩
    exact ⟨front ++ back, front, first, back, others, rfl⟩

theorem ofSegments_succeeds_iff
    (answered : ∀ path location,
      (∃ tokens, including path location = .ok tokens) ↔ answers path)
    {unclosed : Option TagKind} :
    (∃ tokens, ofSegments including tags file unclosed cursor segments = .ok tokens) ↔
      (∃ tokens, ofSegments leaveOut tags file unclosed cursor segments = .ok tokens) ∧
        ∀ path ∈ reached leaveOut tags file cursor segments, answers path := by
  induction segments generalizing cursor with
  | nil => simp [ofSegments, reached]
  | cons segment segments ih =>
      rw [ofSegments_cons_succeeds_iff, ofSegments_cons_succeeds_iff, ih, reached]
      cases target : segment.target? file with
      | none =>
          rw [ofSegment_of_own target]
          cases ofSegment leaveOut file (cursor.location file) segment with
          | error error => simp
          | ok front => simp
      | some path =>
          rw [ofSegment_of_target? target, ofSegment_of_target? target, answered]
          simp only [leaveOut, Option.toList_some, List.singleton_append, List.mem_cons,
            forall_eq_or_imp]
          constructor
          · rintro ⟨first, own, others⟩
            exact ⟨⟨⟨[], rfl⟩, own⟩, first, others⟩
          · rintro ⟨⟨_, own⟩, first, others⟩
            exact ⟨first, own, others⟩

theorem ofFile_succeeds_iff
    (answered : ∀ path location,
      (∃ tokens, including path location = .ok tokens) ↔ answers path)
    {source : List Char} :
    (∃ tokens, ofFile including tags file source = .ok tokens) ↔
      Legible tags file source ∧ ∀ path ∈ sites tags file source, answers path :=
  ofSegments_succeeds_iff answered

end Answers

end Stencil.Token
