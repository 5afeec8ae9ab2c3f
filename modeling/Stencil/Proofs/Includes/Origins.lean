import Stencil.Proofs.Includes.Openings

/-!
Where tokens and errors come from. Each belongs to one of the files that are opened while a template
is scanned, and to a segment of that file, which says what the token says or is what fails.
-/

namespace Stencil.Token

open Segment

abbrev Opening.ComesTo (tags : Tags) (opening : Opening) (place : Cursor) (segment : Segment) : Prop :=
  Token.ComesTo leaveOut tags opening.file (.ofSource opening.text) (cut tags opening.text).segments
    place segment

inductive Opening.Fails (tags : Tags) (load : Loader) (opening : Opening) : ScanError → Prop
  | unclosed {kind} : (cut tags opening.text).unclosed = some kind →
      Fails tags load opening ⟨.unclosed kind (String.ofList (tags.stop kind)),
        ((Cursor.ofSource opening.text).advance
          (sources tags (cut tags opening.text).segments).length).location opening.file⟩
  | unknownControl {place inner} : opening.ComesTo tags place (.tag .control inner) →
      control? inner = none →
      Fails tags load opening ⟨.unknownControl, place.location opening.file⟩
  | circular {place segment path} : opening.ComesTo tags place segment →
      segment.target? opening.file = some path → path ∈ opening.stack →
      Fails tags load opening ⟨.circular path, place.location opening.file⟩
  | tooDeep {place segment path} : opening.ComesTo tags place segment →
      segment.target? opening.file = some path → path ∉ opening.stack →
      opening.stack.length = maxIncludeDepth + 1 →
      Fails tags load opening ⟨.tooDeep, place.location opening.file⟩
  | unreadable {place segment path} : opening.ComesTo tags place segment →
      segment.target? opening.file = some path → path ∉ opening.stack → load path = none →
      Fails tags load opening ⟨.unreadable path, place.location opening.file⟩

variable {tags : Tags} {load : Loader} {levels : Nat} {stack : List Path} {file : String}
  {text : List Char}

theorem ofSegment_eq_error {including : Path → Location → Except ScanError (List Token)}
    {location : Location} {segment : Segment} {error : ScanError}
    (own : segment.target? file = none)
    (failed : ofSegment including file location segment = .error error) :
    ∃ inner, segment = .tag .control inner ∧ control? inner = none ∧
      error = ⟨.unknownControl, location⟩ := by
  match segment with
  | .plain text => simp [ofSegment] at failed
  | .tag .expression inner => simp [ofSegment] at failed
  | .tag .include inner => simp [target?] at own
  | .tag .control inner =>
      simp only [ofSegment] at failed
      split at failed
      · simp at failed
      · rename_i unknown
        exact ⟨inner, rfl, unknown, (Except.error.inj failed).symm⟩

/-- A segment that includes nothing has one token, which says what the segment says. -/
theorem ofSegment_eq_singleton {including : Path → Location → Except ScanError (List Token)}
    {location : Location} {segment : Segment} {tokens : List Token}
    (own : segment.target? file = none)
    (read : ofSegment including file location segment = .ok tokens) :
    ∃ token, tokens = [token] ∧ segment.content? = some token.content ∧
      token.location = location := by
  cases said : segment.content? with
  | some content =>
      rw [ofSegment_of_content? including file location said, Except.ok.injEq] at read
      exact ⟨_, read.symm, rfl, rfl⟩
  | none =>
      match segment with
      | .plain text => simp [content?] at said
      | .tag .expression inner => simp [content?] at said
      | .tag .control inner => exact absurd read (ofSegment_ne_ok_of_content? location said)
      | .tag .include inner => simp [target?] at own

theorem ofSegment_eq_ok {including : Path → Location → Except ScanError (List Token)}
    {location : Location} {segment : Segment} {tokens : List Token} {token : Token}
    (own : segment.target? file = none)
    (read : ofSegment including file location segment = .ok tokens) (member : token ∈ tokens) :
    segment.content? = some token.content ∧ token.location = location := by
  obtain ⟨only, rfl, content, place⟩ := ofSegment_eq_singleton own read
  obtain rfl := List.mem_singleton.mp member
  exact ⟨content, place⟩

theorem ofInclude_circular {path : Path} {location : Location} (circular : path ∈ stack) :
    ofInclude tags load levels stack path location = .error ⟨.circular path, location⟩ := by
  cases levels with
  | zero => rw [ofInclude, if_pos circular]
  | succ levels => rw [ofInclude, if_pos circular]

/-- An error of a file that is being read is one of its own, or one of a file that it includes. -/
theorem fails_or_below {error : ScanError} (full : stack.length + levels = maxIncludeDepth + 1)
    (failed : ofFile (ofInclude tags load levels stack) tags file text = .error error) :
    Opening.Fails tags load ⟨stack, file, text⟩ error ∨
      ∃ below path inside, levels = below + 1 ∧
        path ∈ reachedIn (ofInclude tags load levels stack) tags file text ∧ path ∉ stack ∧
        load path = some inside ∧
        ofFile (ofInclude tags load below (path :: stack)) tags path.toString inside.toList =
          .error error := by
  rcases ofSegments_eq_error failed with ⟨place, segment, comes, fails⟩ | ⟨kind, unclosed, rfl⟩
  · cases target : segment.target? file with
    | none =>
        obtain ⟨inner, rfl, unknown, rfl⟩ := ofSegment_eq_error target fails
        exact .inl (.unknownControl comes.alone unknown)
    | some path =>
        rw [ofSegment_of_target? target] at fails
        by_cases circular : path ∈ stack
        · rw [ofInclude_circular circular] at fails
          obtain rfl := Except.error.inj fails
          exact .inl (.circular comes.alone target circular)
        · cases levels with
          | zero =>
              rw [ofInclude, if_neg circular] at fails
              obtain rfl := Except.error.inj fails
              exact .inl (.tooDeep comes.alone target circular full)
          | succ below =>
              rw [ofInclude, if_neg circular] at fails
              split at fails
              · rename_i missing
                obtain rfl := Except.error.inj fails
                exact .inl (.unreadable comes.alone target circular missing)
              · rename_i inside loaded
                have reaches := mem_reached_iff.mpr ⟨place, segment, comes, target⟩
                exact .inr ⟨below, path, inside, rfl, reaches, circular, loaded, fails⟩
  · exact .inl (.unclosed unclosed)

/-- Every error comes from an opened file. -/
theorem exists_opening_of_error {error : ScanError}
    (full : stack.length + levels = maxIncludeDepth + 1)
    (failed : ofFile (ofInclude tags load levels stack) tags file text = .error error) :
    ∃ opening ∈ openings tags load levels stack file text, opening.Fails tags load error := by
  induction levels generalizing stack file text with
  | zero =>
      rcases fails_or_below full failed with own | ⟨below, _, _, deeper, _⟩
      · exact ⟨_, self_mem_openings, own⟩
      · omega
  | succ levels ih =>
      rcases fails_or_below full failed with
        own | ⟨below, path, inside, deeper, comes, fresh, loaded, fails⟩
      · exact ⟨_, self_mem_openings, own⟩
      · obtain rfl : levels = below := by omega
        obtain ⟨opening, member, origin⟩ := ih (by rw [List.length_cons]; omega) fails
        exact ⟨opening,
          mem_openings_succ_iff.mpr (.inr ⟨path, comes, fresh, inside, loaded, member⟩), origin⟩

def Opening.Says (tags : Tags) (opening : Opening) (token : Token) : Prop :=
  ∃ place segment, opening.ComesTo tags place segment ∧
    segment.content? = some token.content ∧ token.location = place.location opening.file

theorem says_or_below {tokens : List Token} {token : Token}
    (read : ofFile (ofInclude tags load levels stack) tags file text = .ok tokens)
    (member : token ∈ tokens) :
    Opening.Says tags ⟨stack, file, text⟩ token ∨
      ∃ below path inside others, levels = below + 1 ∧
        path ∈ reachedIn (ofInclude tags load levels stack) tags file text ∧ path ∉ stack ∧
        load path = some inside ∧
        ofFile (ofInclude tags load below (path :: stack)) tags path.toString inside.toList =
          .ok others ∧ token ∈ others := by
  obtain ⟨place, segment, front, comes, said, among⟩ := exists_comesTo_of_mem read member
  cases target : segment.target? file with
  | none =>
      obtain ⟨content, location⟩ := ofSegment_eq_ok target said among
      exact .inl ⟨place, segment, comes.alone, content, location⟩
  | some path =>
      rw [ofSegment_of_target? target] at said
      cases levels with
      | zero => exact absurd said not_ofInclude_zero
      | succ below =>
          obtain ⟨fresh, inside, loaded, _⟩ := ofInclude_succeeds_iff.mp ⟨front, said⟩
          rw [ofInclude, if_neg fresh, loaded] at said
          have reaches := mem_reached_iff.mpr ⟨place, segment, comes, target⟩
          exact .inr ⟨below, path, inside, front, rfl, reaches, fresh, loaded, said, among⟩

/-- Every token comes from an opened file. -/
theorem exists_opening_of_mem {tokens : List Token} {token : Token}
    (read : ofFile (ofInclude tags load levels stack) tags file text = .ok tokens)
    (member : token ∈ tokens) :
    ∃ opening ∈ openings tags load levels stack file text, opening.Says tags token := by
  induction levels generalizing stack file text tokens with
  | zero =>
      rcases says_or_below read member with own | ⟨below, _, _, _, deeper, _⟩
      · exact ⟨_, self_mem_openings, own⟩
      · omega
  | succ levels ih =>
      rcases says_or_below read member with
        own | ⟨below, path, inside, others, deeper, comes, fresh, loaded, said, among⟩
      · exact ⟨_, self_mem_openings, own⟩
      · obtain rfl : levels = below := by omega
        obtain ⟨opening, opened, origin⟩ := ih said among
        exact ⟨opening,
          mem_openings_succ_iff.mpr (.inr ⟨path, comes, fresh, inside, loaded, opened⟩), origin⟩

end Stencil.Token
