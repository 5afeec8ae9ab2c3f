import Mathlib.Logic.Function.Iterate
import Stencil.Proofs.Includes.Origins
import Stencil.Proofs.Settings

/-!
Scanning turn by turn. The files that are being read are stacked, the innermost first, each with a
cursor; a turn reads one segment of the innermost file, opens the file that the segment includes, or
leaves a file at its end. Files may be different each time that they are loaded. Scanning comes to
an end all the same: each segment moves a cursor forward, and the stack is no higher than the limit.
-/

namespace Stencil

namespace Segment

def next (tags : Tags) (text : List Char) : Except TagKind Segment :=
  match opening? tags text with
  | none => .ok (.plain (splitPlain tags text).1)
  | some kind =>
      match Text.cutAt? (tags.stop kind) (text.drop (tags.start kind).length) with
      | none => .error kind
      | some (inner, _) => .ok (.tag kind inner)

variable {tags : Tags} {text : List Char}

theorem cut_of_next_error {kind : TagKind} (filled : text ≠ [])
    (unclosed : next tags text = .error kind) : cut tags text = ⟨[], some kind⟩ := by
  obtain ⟨first, rest, rfl⟩ := List.exists_cons_of_ne_nil filled
  rw [next] at unclosed
  split at unclosed
  · simp at unclosed
  · rename_i other opening
    split at unclosed
    · rename_i missing
      obtain rfl := Except.error.inj unclosed
      exact cut_unclosed opening missing
    · simp at unclosed

/-- The cut of a text begins with its next segment, which is not empty, and goes on behind it. -/
theorem cut_of_next {segment : Segment} (filled : text ≠ [])
    (found : next tags text = .ok segment) :
    ∃ rest, text = segment.source tags ++ rest ∧ segment.source tags ≠ [] ∧
      cut tags text = (cut tags rest).cons segment := by
  rw [next] at found
  split at found
  · rename_i missing
    obtain rfl := Except.ok.inj found
    have fits := fits_splitPlain filled missing
    have parts := cut_plain fits (stops_splitPlain tags text)
    rw [splitPlain_append] at parts
    exact ⟨_, (splitPlain_append tags text).symm, fits.1, parts⟩
  · rename_i kind opening
    split at found
    · simp at found
    · rename_i inner after body
      obtain rfl := Except.ok.inj found
      obtain ⟨whole, fits⟩ := fits_tag_of_cutAt? opening body
      exact ⟨after, whole, fits.source_ne_nil, whole ▸ cut_tag fits⟩

end Segment

structure Reader where
  path : Path
  file : String
  cursor : Cursor

namespace Reader

def opened (path : Path) (text : String) : Reader :=
  ⟨path, path.toString, .ofSource text.toList⟩

def pass (reader : Reader) (tags : Tags) (segment : Segment) : Reader :=
  { reader with cursor := reader.cursor.advance (segment.source tags).length }

def MovesTo (reader moved : Reader) : Prop :=
  moved.path = reader.path ∧ moved.file = reader.file ∧
    ∃ taken, taken ≠ [] ∧ reader.cursor.rest = taken ++ moved.cursor.rest ∧
      moved.cursor = reader.cursor.advance taken.length

theorem MovesTo.length_lt {reader moved : Reader} (moves : reader.MovesTo moved) :
    moved.cursor.rest.length < reader.cursor.rest.length := by
  obtain ⟨_, _, taken, filled, whole, _⟩ := moves
  have := List.length_pos_iff.mpr filled
  rw [whole, List.length_append]
  omega

theorem movesTo_pass {tags : Tags} {reader : Reader} {segment : Segment}
    (inside : reader.cursor.rest ≠ [])
    (found : Segment.next tags reader.cursor.rest = .ok segment) :
    reader.MovesTo (reader.pass tags segment) := by
  obtain ⟨rest, whole, filled, _⟩ := Segment.cut_of_next inside found
  refine ⟨rfl, rfl, _, filled, ?_, rfl⟩
  rw [pass, Cursor.rest_advance, whole, List.drop_left]

end Reader

inductive Scanner where
  | reading (readers : List Reader) (tokens : List Token)
  | finished (outcome : Except ScanError (List Token))

namespace Scanner

def read (tags : Tags) (load : Loader) (reader : Reader) (outer : List Reader)
    (tokens : List Token) (segment : Segment) : Scanner :=
  let location := reader.cursor.location reader.file
  match segment.target? reader.file with
  | none =>
      match Token.ofSegment Token.leaveOut reader.file location segment with
      | .error error => .finished (.error error)
      | .ok front => .reading (reader.pass tags segment :: outer) (tokens ++ front)
  | some path =>
      if path ∈ (reader :: outer).map Reader.path then
        .finished (.error ⟨.circular path, location⟩)
      else if maxIncludeDepth < (reader :: outer).length then
        .finished (.error ⟨.tooDeep, location⟩)
      else
        match load path with
        | none => .finished (.error ⟨.unreadable path, location⟩)
        | some text => .reading (.opened path text :: reader.pass tags segment :: outer) tokens

def turn (tags : Tags) (load : Loader) : Scanner → Scanner
  | .finished outcome => .finished outcome
  | .reading [] tokens => .finished (.ok tokens)
  | .reading (reader :: outer) tokens =>
      if reader.cursor.rest = [] then .reading outer tokens
      else
        match Segment.next tags reader.cursor.rest with
        | .ok segment => read tags load reader outer tokens segment
        | .error kind =>
            .finished (.error ⟨.unclosed kind (String.ofList (tags.stop kind)),
              reader.cursor.location reader.file⟩)

def turns (tags : Tags) (loads : Nat → Loader) (start : Scanner) : (count : Nat) → Scanner
  | 0 => start
  | count + 1 => (turns tags loads start count).turn tags (loads count)

def start (name source : String) : Scanner :=
  .reading [⟨(Path.ofString name).normalize, name, .ofSource source.toList⟩] []

variable {tags : Tags} {load : Loader} {reader : Reader} {outer : List Reader}
  {tokens : List Token}

/-- What a turn can come to inside a file: an error, or the reader behind a segment, on top of which
a file may have been opened. -/
theorem turn_inside (load : Loader) (outer : List Reader) (tokens : List Token)
    (inside : reader.cursor.rest ≠ []) :
    (∃ error, (reading (reader :: outer) tokens).turn tags load = .finished (.error error)) ∨
      ∃ moved, reader.MovesTo moved ∧
        ((∃ front, (reading (reader :: outer) tokens).turn tags load =
          .reading (moved :: outer) (tokens ++ front)) ∨
        ∃ path text, load path = some text ∧ path ∉ (reader :: outer).map Reader.path ∧
          (reader :: outer).length ≤ maxIncludeDepth ∧
          (reading (reader :: outer) tokens).turn tags load =
            .reading (.opened path text :: moved :: outer) tokens) := by
  rw [turn, if_neg inside]
  cases found : Segment.next tags reader.cursor.rest with
  | error kind => exact .inl ⟨_, rfl⟩
  | ok segment =>
      have moves := Reader.movesTo_pass inside found
      simp only [read]
      split
      · split
        · exact .inl ⟨_, rfl⟩
        · exact .inr ⟨_, moves, .inl ⟨_, rfl⟩⟩
      · rename_i path target
        split
        · exact .inl ⟨_, rfl⟩
        · rename_i fresh
          split
          · exact .inl ⟨_, rfl⟩
          · rename_i shallow
            split
            · exact .inl ⟨_, rfl⟩
            · rename_i text loaded
              exact .inr ⟨_, moves, .inr ⟨path, text, loaded, fresh, Nat.le_of_not_lt shallow, rfl⟩⟩

theorem turn_at_end (load : Loader) (outer : List Reader) (tokens : List Token)
    (ended : reader.cursor.rest = []) :
    (reading (reader :: outer) tokens).turn tags load = .reading outer tokens := by
  rw [turn, if_pos ended]

def Shallow : Scanner → Prop
  | .reading readers _ => readers.length ≤ maxIncludeDepth + 1
  | .finished _ => True

theorem Shallow.turn {scanner : Scanner} (shallow : scanner.Shallow) (load : Loader) :
    (scanner.turn tags load).Shallow := by
  match scanner with
  | .finished outcome => trivial
  | .reading [] tokens => trivial
  | .reading (reader :: outer) tokens =>
      have room : outer.length + 1 ≤ maxIncludeDepth + 1 := shallow
      by_cases ended : reader.cursor.rest = []
      · rw [turn_at_end load outer tokens ended]
        exact Nat.le_of_succ_le room
      · rcases turn_inside load outer tokens ended with
          ⟨error, same⟩ | ⟨moved, _, ⟨front, same⟩ | ⟨path, text, _, _, below, same⟩⟩
        · rw [same]
          trivial
        · rw [same]
          exact room
        · rw [same]
          exact Nat.succ_le_succ below

theorem Shallow.turns {scanner : Scanner} (shallow : scanner.Shallow) (loads : Nat → Loader)
    (count : Nat) : (scanner.turns tags loads count).Shallow := by
  induction count with
  | zero => exact shallow
  | succ count ih => exact ih.turn (loads count)

/-- What can come after a scanner that has not finished, whatever is loaded. -/
inductive Follows (tags : Tags) : Scanner → Scanner → Prop
  | turn {readers tokens} (load : Loader) :
      Follows tags ((reading readers tokens).turn tags load) (.reading readers tokens)

theorem acc_finished (outcome : Except ScanError (List Token)) :
    Acc (Follows tags) (.finished outcome) :=
  ⟨_, fun _ follows => nomatch follows⟩

/-- A file is read to its end, or to an error: inside it the cursor moves forward, and a file that
is opened on top of it has one level less for its own includes. -/
theorem acc_reading {levels : Nat}
    (room : levels + (reader :: outer).length = maxIncludeDepth + 1)
    (after : ∀ tokens, Acc (Follows tags) (.reading outer tokens)) :
    Acc (Follows tags) (.reading (reader :: outer) tokens) := by
  -- What is loaded has no bound, so the outer induction is on the levels that are left; only inside
  -- one file is it the text that gets shorter.
  induction levels using Nat.strongRecOn generalizing reader outer tokens with
  | ind levels deeper =>
      induction size : reader.cursor.rest.length using Nat.strongRecOn
        generalizing reader tokens with
      | ind size further =>
          refine ⟨_, ?_⟩
          rintro _ ⟨load⟩
          by_cases ended : reader.cursor.rest = []
          · rw [turn_at_end load outer tokens ended]
            exact after tokens
          · rcases turn_inside load outer tokens ended with
              ⟨error, same⟩ | ⟨moved, moves, cases⟩
            · rw [same]
              exact acc_finished _
            · have rest (tokens : List Token) :
                  Acc (Follows tags) (.reading (moved :: outer) tokens) :=
                further _ (size ▸ moves.length_lt) room rfl
              rcases cases with ⟨front, same⟩ | ⟨path, text, _, _, below, same⟩
              · rw [same]
                exact rest _
              · rw [same]
                simp only [List.length_cons] at room below
                exact deeper (levels - 1) (by omega) (by simp only [List.length_cons]; omega) rest

/-- A template is finished after a number of turns, even if no two turns load the same. -/
theorem exists_finished {scanner : Scanner} (accessible : Acc (Follows tags) scanner)
    {start : Scanner} {loads : Nat → Loader} {count : Nat}
    (now : start.turns tags loads count = scanner) :
    ∃ later outcome, start.turns tags loads later = .finished outcome := by
  induction accessible generalizing count with
  | intro scanner _ ih =>
      cases scanner with
      | finished outcome => exact ⟨count, outcome, now⟩
      | reading readers tokens =>
          have next : start.turns tags loads (count + 1) =
              (reading readers tokens).turn tags (loads count) := by rw [turns, now]
          exact ih _ (.turn (loads count)) next

theorem acc_start (tags : Tags) (name source : String) :
    Acc (Follows tags) (.start name source) := by
  have room : maxIncludeDepth + 1 = maxIncludeDepth + 1 := rfl
  refine acc_reading room ?_
  intro tokens
  refine ⟨_, ?_⟩
  rintro _ ⟨load⟩
  exact acc_finished _

/-! Where everything that is loaded stays the same, the turns come to what scanning comes to. -/

def Reaches (tags : Tags) (load : Loader) (scanner other : Scanner) : Prop :=
  ∃ count, (turn tags load)^[count] scanner = other

theorem Reaches.trans {first second third : Scanner} (before : Reaches tags load first second)
    (behind : Reaches tags load second third) : Reaches tags load first third := by
  obtain ⟨count, rfl⟩ := before
  obtain ⟨more, rfl⟩ := behind
  exact ⟨more + count, Function.iterate_add_apply _ more count first⟩

theorem reaches_turn {scanner other : Scanner} (same : scanner.turn tags load = other) :
    Reaches tags load scanner other := ⟨1, same⟩

theorem turns_const (tags : Tags) (load : Loader) (scanner : Scanner) (count : Nat) :
    scanner.turns tags (fun _ => load) count = (turn tags load)^[count] scanner := by
  induction count with
  | zero => rfl
  | succ count ih => rw [turns, ih, Function.iterate_succ_apply']

def leave (outer : List Reader) (tokens : List Token) : Except ScanError (List Token) → Scanner
  | .ok front => .reading outer (tokens ++ front)
  | .error error => .finished (.error error)

theorem Reaches.leave_bind {scanner : Scanner} {inner : List Reader}
    {first second : Except ScanError (List Token)}
    (before : Reaches tags load scanner (leave inner tokens first))
    (behind : ∀ front, Reaches tags load (.reading inner (tokens ++ front))
      (leave outer (tokens ++ front) second)) :
    Reaches tags load scanner
      (leave outer tokens (do let front ← first; let back ← second; return front ++ back)) := by
  cases first with
  | error error => exact before
  | ok front =>
      have joined : leave outer tokens (do let back ← second; return front ++ back) =
          leave outer (tokens ++ front) second := by
        cases second <;> simp [leave, pure, Except.pure]
      rw [Outcome.ok_bind, joined]
      exact before.trans (behind front)

/-- A segment is read with all that it includes, given that a file that is opened is. -/
theorem reaches_pass {levels : Nat} {segment : Segment}
    (room : levels + (reader :: outer).length = maxIncludeDepth + 1)
    (deeper : ∀ below path text, levels = below + 1 →
      Reaches tags load (.reading (.opened path text :: reader.pass tags segment :: outer) tokens)
        (leave (reader.pass tags segment :: outer) tokens
          (Token.ofFile
            (Token.ofInclude tags load below (path :: (reader :: outer).map Reader.path)) tags
              path.toString text.toList))) :
    Reaches tags load (read tags load reader outer tokens segment)
      (leave (reader.pass tags segment :: outer) tokens (Token.ofSegment
        (Token.ofInclude tags load levels ((reader :: outer).map Reader.path)) reader.file
        (reader.cursor.location reader.file) segment)) := by
  have still (scanner : Scanner) : Reaches tags load scanner scanner := ⟨0, rfl⟩
  generalize place : reader.cursor.location reader.file = location
  generalize stacked : (reader :: outer).map Reader.path = stack at deeper ⊢
  cases target : segment.target? reader.file with
  | none =>
      have own : Token.ofSegment (Token.ofInclude tags load levels stack) reader.file location
          segment = Token.ofSegment Token.leaveOut reader.file location segment :=
        Token.ofSegment_of_own target
      rw [own]
      simp only [read, target, place]
      cases Token.ofSegment Token.leaveOut reader.file location segment with
      | error error => exact still _
      | ok front => exact still _
  | some path =>
      rw [Token.ofSegment_of_target? target]
      simp only [read, target, place, stacked]
      by_cases circular : path ∈ stack
      · rw [if_pos circular, Token.ofInclude_circular circular]
        exact still _
      · rw [if_neg circular]
        cases levels with
        | zero =>
            rw [Token.ofInclude, if_neg circular, if_pos (by omega)]
            exact still _
        | succ below =>
            rw [Token.ofInclude, if_neg circular, if_neg (by omega)]
            cases load path with
            | none => exact still _
            | some text => exact deeper below path text rfl

/-- What is left to read of a file is read as scanning the file reads it. -/
theorem reaches_leave {levels : Nat}
    (room : levels + (reader :: outer).length = maxIncludeDepth + 1) :
    Reaches tags load (.reading (reader :: outer) tokens)
      (leave outer tokens (Token.ofSegments
        (Token.ofInclude tags load levels ((reader :: outer).map Reader.path)) tags reader.file
        (Segment.cut tags reader.cursor.rest).unclosed reader.cursor
        (Segment.cut tags reader.cursor.rest).segments)) := by
  induction levels using Nat.strongRecOn generalizing reader outer tokens with
  | ind levels deeper =>
      induction size : reader.cursor.rest.length using Nat.strongRecOn
        generalizing reader tokens with
      | ind size further =>
          by_cases ended : reader.cursor.rest = []
          · apply reaches_turn
            rw [turn_at_end load outer tokens ended, ended]
            simp [Segment.cut, Token.ofSegments, leave]
          · cases found : Segment.next tags reader.cursor.rest with
            | error kind =>
                apply reaches_turn
                rw [turn, if_neg ended, found, Segment.cut_of_next_error ended found]
                rfl
            | ok segment =>
                obtain ⟨rest, whole, _, parts⟩ := Segment.cut_of_next ended found
                have turned : (reading (reader :: outer) tokens).turn tags load =
                    read tags load reader outer tokens segment := by
                  rw [turn, if_neg ended, found]
                have onward : (reader.pass tags segment).cursor.rest = rest := by
                  rw [Reader.pass, Cursor.rest_advance, whole, List.drop_left]
                have shorter := (Reader.movesTo_pass ended found).length_lt
                rw [parts, ← onward, Segment.Cut.cons, Token.ofSegments]
                refine ((reaches_turn turned).trans (reaches_pass room ?_)).leave_bind ?_
                · rintro below path text rfl
                  exact deeper below (Nat.lt_succ_self below)
                    (by simp only [List.length_cons] at room ⊢; omega)
                · intro front
                  exact further _ (size ▸ shorter) room rfl

theorem exists_turns_eq_scan (tags : Tags) (load : Loader) (name source : String) :
    ∃ count, (start name source).turns tags (fun _ => load) count =
      .finished (Token.scan tags load name source) := by
  have room : maxIncludeDepth + 1 = maxIncludeDepth + 1 := rfl
  have reaches : Reaches tags load (start name source)
      (leave [] [] (Token.scan tags load name source)) := reaches_leave room
  have ends : Reaches tags load (leave [] [] (Token.scan tags load name source))
      (.finished (Token.scan tags load name source)) := by
    cases Token.scan tags load name source with
    | error error => exact ⟨0, rfl⟩
    | ok tokens => exact reaches_turn rfl
  obtain ⟨count, same⟩ := reaches.trans ends
  exact ⟨count, (turns_const tags load _ count).trans same⟩

end Scanner

open Scanner in
/-- Scanning always ends. None of the six texts of tags is empty, however the tags are obtained.
Each turn inside a file is an error or moves the cursor of the file forward and not beyond its end,
there are never more than 64 files open below the template, and the turns come to an end even if
each of them loads files that have never been there before. Where the files stay the same, the end
is the outcome of scanning. -/
theorem Token.scanning_ends :
    (∀ (settings : TagSettings) (tags : Tags), settings.toTags = .ok tags ↔
      some "" ∉ settings.toTexts ∧
        TagSettings.ofTags tags = (TagSettings.ofTags {}).merge settings) ∧
    ∀ tags : Tags, tags.Obtained ∧ some "" ∉ (TagSettings.ofTags tags).toTexts ∧
      (∀ load reader outer tokens, reader.cursor.rest ≠ [] →
        (∃ error, (reading (reader :: outer) tokens).turn tags load = .finished (.error error)) ∨
          ∃ moved opened front, reader.MovesTo moved ∧ opened.length ≤ 1 ∧
            (reading (reader :: outer) tokens).turn tags load =
              .reading (opened ++ moved :: outer) (tokens ++ front)) ∧
      ∀ name source,
        (∀ loads count readers tokens,
          (start name source).turns tags loads count = .reading readers tokens →
            readers.length ≤ 65) ∧
        (∀ loads, ∃ count outcome,
          (start name source).turns tags loads count = .finished outcome) ∧
        ∀ load, ∃ count, (start name source).turns tags (fun _ => load) count =
          .finished (Token.scan tags load name source) := by
  refine ⟨fun _ _ => TagSettings.toTags_eq_ok_iff, ?_⟩
  intro tags
  refine ⟨tags.obtained, tags.filled_texts, ?_, fun name source => ⟨?_, ?_, ?_⟩⟩
  · intro load reader outer tokens inside
    rcases turn_inside load outer tokens inside with
      failed | ⟨moved, moves, ⟨front, same⟩ | ⟨path, text, _, _, _, same⟩⟩
    · exact .inl failed
    · exact .inr ⟨moved, [], front, moves, Nat.zero_le _, same⟩
    · exact .inr ⟨moved, [.opened path text], [], moves, Nat.le_refl _, by simpa using same⟩
  · intro loads count readers tokens now
    have begun : (start name source).Shallow := Nat.le_add_left 1 maxIncludeDepth
    have shallow : ((start name source).turns tags loads count).Shallow :=
      begun.turns loads count
    rwa [now] at shallow
  · intro loads
    have begun : (start name source).turns tags loads 0 = start name source := rfl
    exact exists_finished (acc_start tags name source) begun
  · intro load
    exact exists_turns_eq_scan tags load name source

def freshFiles (count : Nat) : Loader := fun path =>
  some ("[@ " ++ path.toString ++ toString count ++ " @]")

theorem Token.scanning_ends_in_freshFiles :
    ∃ count outcome,
      (Scanner.start "page" "[@ part @]").turns {} freshFiles count = .finished outcome := by
  obtain ⟨_, _, _, each⟩ := Token.scanning_ends.2 {}
  exact (each "page" "[@ part @]").2.1 freshFiles

end Stencil
