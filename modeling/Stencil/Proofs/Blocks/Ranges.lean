import Stencil.Proofs.Blocks.Sections

/-!
Ranges of positions and the lists of tokens in them. Searching a range for the end of a block finds
the place at which the list splits, so that the tree of a range is the tree of its tokens.
-/

namespace Stencil.Node

open Outcome

def slice (tokens : Array Token) (start stop : Nat) : List Token :=
  (tokens.toList.take stop).drop start

theorem slice_of_not_lt {start stop : Nat} (tokens : Array Token) (passed : ¬ start < stop) :
    slice tokens start stop = [] := by
  apply List.drop_eq_nil_of_le
  simp only [List.length_take]
  omega

theorem slice_of_getElem?_none {tokens : Array Token} {start : Nat} (stop : Nat)
    (missing : tokens[start]? = none) : slice tokens start stop = [] := by
  apply List.drop_eq_nil_of_le
  have beyond := Array.getElem?_eq_none_iff.mp missing
  simp only [List.length_take, Array.length_toList]
  omega

theorem slice_eq_cons {tokens : Array Token} {start stop : Nat} {token : Token}
    (below : start < stop) (found : tokens[start]? = some token) :
    slice tokens start stop = token :: slice tokens (start + 1) stop := by
  obtain ⟨bound, value⟩ := Array.getElem?_eq_some_iff.mp found
  have inRange : start < (tokens.toList.take stop).length := by
    simp only [List.length_take, Array.length_toList]
    omega
  rw [slice, List.drop_eq_getElem_cons inRange, slice]
  simp [value]

theorem slice_toArray (tokens : List Token) : slice tokens.toArray 0 tokens.length = tokens := by
  simp [slice]

theorem splitLoop?_slice (tokens : Array Token) (stop depth index : Nat) :
    splitLoop? depth (slice tokens index stop) =
      (findEndFor? tokens stop depth index).map fun close =>
        (slice tokens index close, slice tokens (close + 1) stop) := by
  have pushed {index : Nat} {token : Token} {search : Option Nat}
      (found : tokens[index]? = some token)
      (bounds : ∀ {close}, search = some close → index + 1 ≤ close ∧ close < stop) :
      (search.map fun close => (slice tokens (index + 1) close, slice tokens (close + 1) stop)).map
          (Prod.map (token :: ·) id) =
        search.map fun close => (slice tokens index close, slice tokens (close + 1) stop) := by
    cases search with
    | none => rfl
    | some close =>
        have below := (bounds rfl).1
        simp [slice_eq_cons (show index < close by omega) found]
  fun_induction findEndFor? tokens stop depth index with
  | case1 depth index below missing =>
      simp [slice_of_getElem?_none stop missing, splitLoop?]
  | case2 depth index below token found kind ih =>
      rw [slice_eq_cons below found]
      simp only [splitLoop?, kind, ih]
      exact pushed found findEndFor?_bounds
  | case3 index below token found kind =>
      rw [slice_eq_cons below found]
      simp [splitLoop?, kind, slice_of_not_lt]
  | case4 depth index below token found kind nested ih =>
      rw [slice_eq_cons below found]
      simp only [splitLoop?, kind, nested, if_false, ih]
      exact pushed found findEndFor?_bounds
  | case5 depth index below token found notFor notEnd ih =>
      rw [slice_eq_cons below found]
      have step : splitLoop? depth (token :: slice tokens (index + 1) stop) =
          (splitLoop? depth (slice tokens (index + 1) stop)).map (Prod.map (token :: ·) id) := by
        simp only [splitLoop?]
      rw [step, ih]
      exact pushed found findEndFor?_bounds
  | case6 depth index passed =>
      simp [slice_of_not_lt tokens passed, splitLoop?]

theorem Ascending.headD_bounds {close low : Nat} {marks : List Nat}
    (ascending : Ascending close low marks) (below : low ≤ close) :
    low ≤ marks.headD close ∧ marks.headD close ≤ close := by
  cases marks with
  | nil => exact ⟨below, Nat.le_refl _⟩
  | cons mark marks => exact ⟨ascending.1, Nat.le_of_lt ascending.2.1⟩

def markedSlices (tokens : Array Token) (close : Nat) : List Nat → List (Token × List Token)
  | [] => []
  | mark :: marks =>
      match tokens[mark]? with
      | none => []
      | some token =>
          (token, slice tokens (mark + 1) (marks.headD close)) :: markedSlices tokens close marks

def sectionsAt (tokens : Array Token) (stop index : Nat) (found : List Nat × Nat) : Sections :=
  ⟨slice tokens index (found.1.headD found.2), markedSlices tokens found.2 found.1,
    slice tokens (found.2 + 1) stop⟩

theorem splitSections_slice (tokens : Array Token) (opener : Location) (stop depth : Nat)
    (elseSeen : Bool) (index : Nat) :
    splitSections opener depth elseSeen (slice tokens index stop) =
      (findMarks tokens opener stop depth elseSeen index).map (sectionsAt tokens stop index) := by
  have pushed {index : Nat} {token : Token} {search : Except BlockError (List Nat × Nat)}
      (found : tokens[index]? = some token)
      (bounds : ∀ {close marks}, search = .ok (marks, close) →
        index + 1 ≤ close ∧ close < stop ∧ Ascending close (index + 1) marks) :
      (search.map (sectionsAt tokens stop (index + 1))).map (.push token) =
        search.map (sectionsAt tokens stop index) := by
    cases search with
    | error error => rfl
    | ok split =>
        obtain ⟨marks, close⟩ := split
        obtain ⟨below, _, ascending⟩ := bounds rfl
        have beforeFirst := (ascending.headD_bounds below).1
        simp only [map_ok, sectionsAt, Sections.push, slice_eq_cons beforeFirst found]
  have divided {index : Nat} {token : Token} {search : Except BlockError (List Nat × Nat)}
      (found : tokens[index]? = some token) :
      (search.map (sectionsAt tokens stop (index + 1))).map (.divide token) =
        (search >>= fun split => .ok (index :: split.1, split.2)).map
          (sectionsAt tokens stop index) := by
    cases search with
    | error error => rfl
    | ok split =>
        simp [sectionsAt, Sections.divide, markedSlices, found, slice_of_not_lt]
  fun_induction findMarks tokens opener stop depth elseSeen index with
  | case1 depth elseSeen index below missing =>
      simp [slice_of_getElem?_none stop missing, splitSections]
  | case2 elseSeen index below token found depth kind ih =>
      rw [slice_eq_cons below found]
      simp only [splitSections, kind]
      exact (congrArg _ ih).trans (pushed found findMarks_bounds)
  | case3 elseSeen index below token found kind =>
      rw [slice_eq_cons below found]
      simp [splitSections, kind, sectionsAt, markedSlices, slice_of_not_lt]
  | case4 elseSeen index below token found depth kind ih =>
      rw [slice_eq_cons below found]
      simp only [splitSections, kind]
      exact (congrArg _ ih).trans (pushed found findMarks_bounds)
  | case5 index below token found kind =>
      rw [slice_eq_cons below found]
      simp [splitSections, kind]
  | case6 elseSeen index below token found kind unseen ih =>
      obtain rfl : elseSeen = false := by simpa using unseen
      rw [slice_eq_cons below found]
      simp only [splitSections, kind, Bool.false_eq_true, if_false]
      exact (congrArg _ ih).trans (divided found)
  | case7 index below token found kind =>
      rw [slice_eq_cons below found]
      simp [splitSections, kind]
  | case8 elseSeen index below token found kind unseen ih =>
      rw [slice_eq_cons below found]
      simp only [splitSections, kind, unseen, Bool.false_eq_true, if_false]
      exact (congrArg _ ih).trans (divided found)
  | case9 elseSeen index below token found depth notIf notEnd notNested notElseIf notElse ih =>
      rw [slice_eq_cons below found]
      have step : splitSections opener depth elseSeen (token :: slice tokens (index + 1) stop) =
          (splitSections opener depth elseSeen (slice tokens (index + 1) stop)).map
            (.push token) := by
        grind [splitSections]
      rw [step]
      exact (congrArg _ ih).trans (pushed found findMarks_bounds)
  | case10 depth elseSeen index passed =>
      simp [slice_of_not_lt tokens passed, splitSections]

mutual

theorem parseRange_eq (tokens : Array Token) (start stop : Nat) :
    parseRange tokens start stop = ofTokens (slice tokens start stop) := by
  rw [parseRange]
  split
  · rename_i below
    split
    · rename_i missing
      rw [slice_of_getElem?_none stop missing, ofTokens_nil]
    · rename_i token found
      rw [slice_eq_cons below found]
      cases kind : token.kind with
      | plain => simp only [ofTokens_plain _ kind, parseRange_eq tokens (start + 1) stop]
      | expression => simp only [ofTokens_output _ kind, parseRange_eq tokens (start + 1) stop]
      | forLoop =>
          simp only [ofTokens_forLoop _ kind, splitLoop?_slice]
          split
          · rename_i missing
            simp only [missing, Option.map_none]
          · rename_i close search
            have bounds := findEndFor?_bounds search
            have inside := parseRange_eq tokens (start + 1) close
            have behind := parseRange_eq tokens (close + 1) stop
            simp only [search, Option.map_some]
            cases splitFor? token.text with
            | none => rfl
            | some header =>
                obtain ⟨variableName, iterable⟩ := header
                simp only [inside, behind]
      | ifBranch =>
          simp only [ofTokens_ifBranch _ kind, splitSections_slice]
          split
          · rename_i error search
            simp only [search, map_error, error_bind]
          · rename_i marks close search
            obtain ⟨low, high, ascending⟩ := findMarks_bounds search
            have firstMark := ascending.headD_bounds low
            simp only [search, map_ok, ok_bind, sectionsAt,
              parseRange_eq tokens (start + 1) (marks.headD close),
              parseRange_eq tokens (close + 1) stop,
              parseAlternatives_eq tokens close (start + 1) marks]
      | endFor => rw [ofTokens_stray _ (by simp [kind]), kind]
      | elseIf => rw [ofTokens_stray _ (by simp [kind]), kind]
      | elseBranch => rw [ofTokens_stray _ (by simp [kind]), kind]
      | endIf => rw [ofTokens_stray _ (by simp [kind]), kind]
  · rename_i passed
    rw [slice_of_not_lt tokens passed, ofTokens_nil]
termination_by stop - start
decreasing_by all_goals omega

theorem parseAlternatives_eq (tokens : Array Token) (close low : Nat) (marks : List Nat)
    (ascending : Ascending close low marks) :
    parseAlternatives tokens close low marks ascending =
      ofMarked (markedSlices tokens close marks) := by
  rw [parseAlternatives.eq_def]
  split
  · rw [markedSlices, ofMarked_nil]
  · rename_i mark marks ascending
    split
    · rename_i missing
      simp only [markedSlices, missing, ofMarked_nil]
    · rename_i token found
      obtain ⟨low, high, ascending⟩ := ascending
      have nextMark := ascending.headD_bounds high
      have inside := parseRange_eq tokens (mark + 1) (marks.headD close)
      have others := parseAlternatives_eq tokens close (mark + 1) marks ascending
      simp only [markedSlices, found]
      rw [ofMarked, inside]
      cases token.kind with
      | elseIf => simp only [others]
      | _ => rfl
termination_by close - low
decreasing_by all_goals omega

end

theorem parse_eq_ofTokens (tokens : List Token) : parse tokens = ofTokens tokens := by
  rw [parse, parseRange_eq, slice_toArray]

end Stencil.Node
