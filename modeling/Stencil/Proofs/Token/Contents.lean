import Stencil.Proofs.Token.Scanning
import Stencil.Proofs.Token.Seams

/-!
What the tokens of a source say, apart from where they stand. It depends on the segments of the
source and on what the files say that they include, and on no place.
-/

namespace Stencil

namespace Token

def contents? (outcome : Except ScanError (List Token)) :
    Option (List (TokenKind × Option String)) :=
  outcome.toOption.map fun tokens => tokens.map content

@[simp] theorem contents?_ok (tokens : List Token) :
    contents? (.ok tokens) = some (tokens.map content) := rfl

@[simp] theorem contents?_error (error : ScanError) : contents? (.error error) = none := rfl

theorem contents?_eq_some_iff {outcome : Except ScanError (List Token)}
    {contents : List (TokenKind × Option String)} :
    contents? outcome = some contents ↔
      ∃ tokens, outcome = .ok tokens ∧ tokens.map content = contents := by
  cases outcome with
  | error error => simp
  | ok tokens => simp

end Token

namespace Segment

def says? (answer : Path → Option (List (TokenKind × Option String))) (file : String)
    (segment : Segment) : Option (List (TokenKind × Option String)) :=
  match segment with
  | .tag .include inner => answer (Token.includeTarget file inner)
  | segment => segment.content?.map fun content => [content]

def allSay? (answer : Path → Option (List (TokenKind × Option String))) (file : String) :
    List Segment → Option (List (TokenKind × Option String))
  | [] => some []
  | segment :: segments =>
      (segment.says? answer file).bind fun front =>
        (allSay? answer file segments).map fun back => front ++ back

theorem allSay?_append (answer : Path → Option (List (TokenKind × Option String)))
    (file : String) (segments others : List Segment) :
    allSay? answer file (segments ++ others) =
      (allSay? answer file segments).bind fun front =>
        (allSay? answer file others).map fun back => front ++ back := by
  induction segments with
  | nil => simp [allSay?]
  | cons segment segments ih =>
      rw [List.cons_append, allSay?, allSay?, ih]
      cases segment.says? answer file with
      | none => rfl
      | some first =>
          cases allSay? answer file segments with
          | none => rfl
          | some front => cases allSay? answer file others <;> simp

theorem allSay?_of_quiet {segments : List Segment}
    (quiet : ∀ inner, Segment.tag .include inner ∉ segments)
    (answer other : Path → Option (List (TokenKind × Option String))) (file name : String) :
    allSay? answer file segments = allSay? other name segments := by
  induction segments with
  | nil => rfl
  | cons segment segments ih =>
      have later := ih fun inner member => quiet inner (List.mem_cons_of_mem _ member)
      have first : segment.says? answer file = segment.says? other name := by
        match segment with
        | .plain text => rfl
        | .tag .expression inner => rfl
        | .tag .control inner => rfl
        | .tag .include inner => exact absurd (List.mem_cons_self ..) (quiet inner)
      rw [allSay?, allSay?, first, later]

end Segment

namespace Token

open Segment

section Answers

variable {including : Path → Location → Except ScanError (List Token)} {tags : Tags}
  {file : String} {answer : Path → Option (List (TokenKind × Option String))}
  (answers : ∀ path location, contents? (including path location) = answer path)

include answers

theorem contents?_ofSegment (location : Location) (segment : Segment) :
    contents? (ofSegment including file location segment) = segment.says? answer file := by
  match segment with
  | .plain text => rfl
  | .tag .expression inner => rfl
  | .tag .control inner =>
      simp only [ofSegment, says?, content?]
      cases control? inner <;> rfl
  | .tag .include inner => exact answers _ location

theorem contents?_ofSegments (cursor : Cursor) (segments : List Segment) :
    contents? (ofSegments including tags file none cursor segments) =
      allSay? answer file segments := by
  induction segments generalizing cursor with
  | nil => rfl
  | cons segment segments ih =>
      have first : contents? (ofSegment including file (cursor.location file) segment) =
          segment.says? answer file := contents?_ofSegment answers _ segment
      have later := ih (cursor.advance (segment.source tags).length)
      rw [ofSegments, allSay?, ← first, ← later]
      cases ofSegment including file (cursor.location file) segment with
      | error error => rfl
      | ok front =>
          cases ofSegments including tags file none _ segments with
          | error error => rfl
          | ok back => simp [pure, Except.pure]

theorem contents?_ofFile (source : List Char) :
    contents? (ofFile including tags file source) =
      if (cut tags source).unclosed = none then allSay? answer file (cut tags source).segments
      else none := by
  rw [ofFile]
  cases (cut tags source).unclosed with
  | none => simp only [contents?_ofSegments answers, if_true]
  | some kind =>
      simp only [reduceCtorEq, if_false]
      cases read : ofSegments including tags file (some kind) _ _ with
      | error error => rfl
      | ok tokens => exact absurd read ofSegments_unclosed_ne_ok

end Answers

theorem contents?_ofInclude (tags : Tags) (load : Loader) (levels : Nat) (stack : List Path)
    (path : Path) (location : Location) :
    contents? (ofInclude tags load levels stack path location) =
      contents? (ofInclude tags load levels stack path default) := by
  cases levels with
  | zero =>
      rw [ofInclude, ofInclude]
      split <;> rfl
  | succ levels =>
      rw [ofInclude, ofInclude]
      split
      · rfl
      · split <;> rfl

def included? (tags : Tags) (load : Loader) (levels : Nat) (stack : List Path) (path : Path) :
    Option (List (TokenKind × Option String)) :=
  contents? (ofInclude tags load levels stack path default)

theorem contents?_file (tags : Tags) (load : Loader) (levels : Nat) (stack : List Path)
    (file : String) (source : List Char) :
    contents? (ofFile (ofInclude tags load levels stack) tags file source) =
      if (Segment.cut tags source).unclosed = none then
        Segment.allSay? (included? tags load levels stack) file (Segment.cut tags source).segments
      else none :=
  contents?_ofFile (contents?_ofInclude tags load levels stack) source

end Token

end Stencil
