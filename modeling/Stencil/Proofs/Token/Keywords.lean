import Mathlib.Data.List.Nodup
import Mathlib.Data.List.TakeWhile
import Stencil.Proofs.Text.Trimming
import Stencil.Token.Scan

/-!
Control words, apart from the table in which they are looked up: which words there are, where one
stands in the text of a tag, and what is read there. A text begins with at most one of them, but for
`else if`, which begins with `else` as well; only these two have to be tried in order.
-/

namespace Stencil

namespace Text

theorem dropStart?_eq_some_iff {start text after : List Char} :
    dropStart? start text = some after ↔ text = start ++ after := by
  constructor
  · exact eq_append_of_dropStart?
  · rintro rfl
    exact dropStart?_append start after

theorem trimStart_append_of_blank {blanks : List Char}
    (blank : ∀ character ∈ blanks, isBlank character = true) (text : List Char) :
    trimStart (blanks ++ text) = trimStart text :=
  List.dropWhile_append_of_pos blank

theorem trimStart_eq_iff {text solid : List Char}
    (begins : ∀ character ∈ solid.head?, isBlank character = false) :
    trimStart text = solid ↔
      ∃ blanks, (∀ character ∈ blanks, isBlank character = true) ∧ text = blanks ++ solid := by
  constructor
  · rintro rfl
    exact ⟨text.takeWhile isBlank, fun _ => List.mem_takeWhile_imp,
      (List.takeWhile_append_dropWhile).symm⟩
  · rintro ⟨blanks, blank, rfl⟩
    rw [trimStart_append_of_blank blank, trimStart_eq_self_iff.mpr begins]

end Text

inductive TokenKind.ControlWord : TokenKind → List Char → Prop
  | forLoop : ControlWord .forLoop ['f', 'o', 'r']
  | endFor : ControlWord .endFor ['e', 'f', 'o', 'r']
  | ifBranch : ControlWord .ifBranch ['i', 'f']
  | elseIf (gap : List Char) : gap ≠ [] → (∀ character ∈ gap, Text.isBlank character = true) →
      ControlWord .elseIf (['e', 'l', 's', 'e'] ++ (gap ++ ['i', 'f']))
  | elseBranch : ControlWord .elseBranch ['e', 'l', 's', 'e']
  | endIf : ControlWord .endIf ['e', 'i', 'f']

namespace Token

/-- Behind its leading blanks, the text of a tag begins with a word of the kind, and the rest of it
does not continue this word. -/
def BeginsWith (kind : TokenKind) (inner rest : List Char) : Prop :=
  ∃ blanks word, (∀ character ∈ blanks, Text.isBlank character = true) ∧ kind.ControlWord word ∧
    inner = blanks ++ (word ++ rest) ∧ ∀ next ∈ rest.head?, Text.isNamePart next = false

theorem solid_controlWord {kind : TokenKind} {word : List Char} (control : kind.ControlWord word)
    (rest : List Char) : ∀ character ∈ (word ++ rest).head?, Text.isBlank character = false := by
  have solid : Text.isBlank 'f' = false ∧ Text.isBlank 'i' = false ∧ Text.isBlank 'e' = false := by
    decide
  cases control <;> simp [solid]

theorem beginsWith_iff {kind : TokenKind} {inner rest : List Char} :
    BeginsWith kind inner rest ↔
      ∃ word, kind.ControlWord word ∧ Text.trimStart inner = word ++ rest ∧
        ∀ next ∈ rest.head?, Text.isNamePart next = false := by
  constructor
  · rintro ⟨blanks, word, blank, control, whole, ends⟩
    exact ⟨word, control,
      (Text.trimStart_eq_iff (solid_controlWord control rest)).mpr ⟨blanks, blank, whole⟩, ends⟩
  · rintro ⟨word, control, trimmed, ends⟩
    obtain ⟨blanks, blank, whole⟩ :=
      (Text.trimStart_eq_iff (solid_controlWord control rest)).mp trimmed
    exact ⟨blanks, word, blank, control, whole, ends⟩

/-- No two words fit at the start of a text, except for the shorter and the longer `else`. -/
theorem BeginsWith.kind_eq_or {kind other : TokenKind} {inner rest otherRest : List Char}
    (begins : BeginsWith kind inner rest) (alsoBegins : BeginsWith other inner otherRest) :
    kind = other ∨ (kind = .elseIf ∧ other = .elseBranch) ∨
      (kind = .elseBranch ∧ other = .elseIf) := by
  obtain ⟨word, control, trimmed, _⟩ := beginsWith_iff.mp begins
  obtain ⟨otherWord, otherControl, otherTrimmed, _⟩ := beginsWith_iff.mp alsoBegins
  have same : word ++ rest = otherWord ++ otherRest := trimmed.symm.trans otherTrimmed
  cases control <;> cases otherControl <;> simp at same ⊢

theorem dropKeyword?_eq_some_iff {first : List Char} {others : List (List Char)}
    {text rest : List Char} :
    dropKeyword? (first :: others) text = some rest ↔
      (∃ behind, text = first ++ behind ∧ dropWords? others behind = some rest) ∧
        ∀ next ∈ rest.head?, Text.isNamePart next = false := by
  have dropped : (Text.dropStart? first text).bind (dropWords? others) = some rest ↔
      ∃ behind, text = first ++ behind ∧ dropWords? others behind = some rest := by
    simp only [Option.bind_eq_some_iff, Text.dropStart?_eq_some_iff]
  rw [dropKeyword?, ← dropped]
  cases found : (Text.dropStart? first text).bind (dropWords? others) with
  | none => simp
  | some behind =>
      cases behind with
      | nil =>
          simp only [Option.some.injEq, iff_self_and]
          rintro rfl
          simp
      | cons next after =>
          cases part : Text.isNamePart next with
          | false =>
              simp only [part, Bool.false_eq_true, if_false, Option.some.injEq, iff_self_and]
              rintro rfl
              simp [part]
          | true =>
              simp only [part, if_true, reduceCtorEq, Option.some.injEq, false_iff, not_and]
              rintro rfl
              simp [part]

/-- A second word is found behind at least one blank. -/
theorem dropWords?_singleton_eq_some_iff {word text rest : List Char}
    (begins : ∀ character ∈ (word ++ rest).head?, Text.isBlank character = false) :
    dropWords? [word] text = some rest ↔
      ∃ gap, gap ≠ [] ∧ (∀ character ∈ gap, Text.isBlank character = true) ∧
        text = gap ++ (word ++ rest) := by
  rw [dropWords?]
  constructor
  · intro found
    split at found
    · cases found
    · rename_i shorter
      obtain ⟨behind, start, last⟩ := Option.bind_eq_some_iff.mp found
      obtain rfl := Option.some.inj last
      have trimmed := Text.dropStart?_eq_some_iff.mp start
      obtain ⟨gap, blank, rfl⟩ := (Text.trimStart_eq_iff begins).mp trimmed
      refine ⟨gap, ?_, blank, rfl⟩
      rintro rfl
      exact shorter (congrArg List.length trimmed)
  · rintro ⟨gap, filled, blank, rfl⟩
    have trimmed : Text.trimStart (gap ++ (word ++ rest)) = word ++ rest :=
      (Text.trimStart_eq_iff begins).mpr ⟨gap, blank, rfl⟩
    have shorter : (word ++ rest).length ≠ (gap ++ (word ++ rest)).length := by
      have positive := List.length_pos_iff.mpr filled
      have count : (gap ++ (word ++ rest)).length = gap.length + (word ++ rest).length :=
        List.length_append
      omega
    simp only [trimmed, shorter, if_false, Text.dropStart?_append, Option.bind_some, dropWords?]

/-- Each entry of the table finds the words of its kind. -/
theorem dropKeyword?_trimStart {words : List (List Char)} {kind : TokenKind}
    (listed : (words, kind) ∈ keywords) {inner rest : List Char} :
    dropKeyword? words (Text.trimStart inner) = some rest ↔ BeginsWith kind inner rest := by
  have single {word : List Char} (only : ∀ other, kind.ControlWord other ↔ other = word) :
      dropKeyword? [word] (Text.trimStart inner) = some rest ↔ BeginsWith kind inner rest := by
    rw [dropKeyword?_eq_some_iff, beginsWith_iff]
    simp only [only, exists_eq_left, dropWords?, Option.some.injEq, exists_eq_right]
  simp only [keywords, List.mem_cons, Prod.mk.injEq, List.not_mem_nil, or_false] at listed
  rcases listed with ⟨rfl, rfl⟩ | ⟨rfl, rfl⟩ | ⟨rfl, rfl⟩ | ⟨rfl, rfl⟩ | ⟨rfl, rfl⟩ | ⟨rfl, rfl⟩
  · exact single fun other => ⟨fun control => by cases control; rfl, fun same => same ▸ .forLoop⟩
  · exact single fun other => ⟨fun control => by cases control; rfl, fun same => same ▸ .endFor⟩
  · exact single fun other => ⟨fun control => by cases control; rfl, fun same => same ▸ .ifBranch⟩
  · have solid : Text.isBlank 'i' = false := by decide
    rw [dropKeyword?_eq_some_iff, beginsWith_iff]
    constructor
    · rintro ⟨⟨behind, trimmed, found⟩, ends⟩
      obtain ⟨gap, filled, blank, rfl⟩ :=
        (dropWords?_singleton_eq_some_iff (by simp [solid])).mp found
      exact ⟨_, .elseIf gap filled blank, by simpa using trimmed, ends⟩
    · rintro ⟨word, control, trimmed, ends⟩
      cases control with
      | elseIf gap filled blank =>
          refine ⟨⟨gap ++ (['i', 'f'] ++ rest), by simpa using trimmed, ?_⟩, ends⟩
          exact (dropWords?_singleton_eq_some_iff (by simp [solid])).mpr ⟨gap, filled, blank, rfl⟩
  · exact single fun other => ⟨fun control => by cases control; rfl, fun same => same ▸ .elseBranch⟩
  · exact single fun other => ⟨fun control => by cases control; rfl, fun same => same ▸ .endIf⟩

theorem BeginsWith.exists_listed {kind : TokenKind} {inner rest : List Char}
    (begins : BeginsWith kind inner rest) : ∃ words, (words, kind) ∈ keywords := by
  obtain ⟨word, control, _⟩ := beginsWith_iff.mp begins
  cases control <;> simp [keywords]

theorem BeginsWith.rest_eq {kind : TokenKind} {inner rest otherRest : List Char}
    (begins : BeginsWith kind inner rest) (alsoBegins : BeginsWith kind inner otherRest) :
    rest = otherRest := by
  obtain ⟨words, listed⟩ := begins.exists_listed
  have found := (dropKeyword?_trimStart listed).mpr begins
  rw [(dropKeyword?_trimStart listed).mpr alsoBegins] at found
  exact (Option.some.inj found).symm

def kept (kind : TokenKind) (rest : List Char) : Option String :=
  if kind ∈ [TokenKind.forLoop, .ifBranch, .elseIf] then some (String.ofList (Text.trim rest))
  else none

def controlIn? (table : List (List (List Char) × TokenKind)) (inner : List Char) :
    Option (TokenKind × Option String) :=
  table.findSome? fun (words, kind) =>
    (dropKeyword? words (Text.trimStart inner)).map fun rest => (kind, kept kind rest)

theorem controlIn?_keywords (inner : List Char) : controlIn? keywords inner = control? inner := by
  have same (kind : TokenKind) (rest : List Char) : kept kind rest =
      if carriesText kind then some (String.ofList (Text.trim rest)) else none := by
    cases kind <;> rfl
  simp only [controlIn?, control?, same]

def ElseIfFirst (table : List (List (List Char) × TokenKind)) : Prop :=
  [([['e', 'l', 's', 'e'], ['i', 'f']], TokenKind.elseIf),
    ([['e', 'l', 's', 'e']], TokenKind.elseBranch)].Sublist table

section Table

variable {table : List (List (List Char) × TokenKind)} (reordered : table.Perm keywords)
  (elseIfFirst : ElseIfFirst table) {inner : List Char} {kind : TokenKind} {value : Option String}

include reordered

theorem beginsWith_of_controlIn? (found : controlIn? table inner = some (kind, value)) :
    ∃ rest, BeginsWith kind inner rest ∧ value = kept kind rest := by
  obtain ⟨⟨words, other⟩, listed, matched⟩ := List.exists_of_findSome?_eq_some found
  obtain ⟨rest, dropped, same⟩ := Option.map_eq_some_iff.mp matched
  obtain ⟨rfl, rfl⟩ := Prod.mk.inj same
  exact ⟨rest, (dropKeyword?_trimStart (reordered.mem_iff.mp listed)).mp dropped, rfl⟩

theorem exists_controlIn?_of_beginsWith {rest : List Char} (begins : BeginsWith kind inner rest) :
    ∃ other value, controlIn? table inner = some (other, value) := by
  obtain ⟨words, listed⟩ := begins.exists_listed
  have found : (controlIn? table inner).isSome := by
    rw [controlIn?, List.findSome?_isSome_iff]
    refine ⟨(words, kind), reordered.mem_iff.mpr listed, ?_⟩
    simp [(dropKeyword?_trimStart listed).mpr begins]
  obtain ⟨⟨other, value⟩, same⟩ := Option.isSome_iff_exists.mp found
  exact ⟨other, value, same⟩

include elseIfFirst

/-- The shorter `else` is only found where the longer one has been tried in vain. -/
theorem not_elseIf_of_controlIn? (found : controlIn? table inner = some (.elseBranch, value))
    (rest : List Char) : ¬ BeginsWith .elseIf inner rest := by
  intro longer
  obtain ⟨before, ⟨words, other⟩, after, split, matched, unmatched⟩ :=
    List.findSome?_eq_some_iff.mp found
  obtain ⟨_, _, same⟩ := Option.map_eq_some_iff.mp matched
  obtain rfl : other = .elseBranch := congrArg Prod.fst same
  have listed : (words, TokenKind.elseBranch) ∈ keywords := reordered.mem_iff.mp (by simp [split])
  obtain rfl : words = [['e', 'l', 's', 'e']] := by simpa [keywords] using listed
  have untried : ([['e', 'l', 's', 'e'], ['i', 'f']], TokenKind.elseIf) ∉ before := by
    intro tried
    have missed := unmatched _ tried
    have listed : ([['e', 'l', 's', 'e'], ['i', 'f']], TokenKind.elseIf) ∈ keywords := by
      simp [keywords]
    simp [(dropKeyword?_trimStart listed).mpr longer] at missed
  have distinct : table.Nodup := reordered.nodup_iff.mpr (by decide)
  rw [split, List.nodup_append, List.nodup_cons] at distinct
  rw [ElseIfFirst, split] at elseIfFirst
  obtain ⟨front, back, parts, inBefore, inAfter⟩ := List.sublist_append_iff.mp elseIfFirst
  cases front with
  | nil =>
      obtain rfl := parts
      rcases List.cons_sublist_cons'.mp inAfter with later | ⟨same, _⟩
      · exact distinct.2.1.1 (later.subset (by simp))
      · simp at same
  | cons entry front =>
      obtain ⟨rfl, _⟩ := List.cons.inj parts
      exact untried (inBefore.subset (by simp))

theorem controlIn?_eq_some_iff :
    controlIn? table inner = some (kind, value) ↔
      ∃ rest, BeginsWith kind inner rest ∧
        (kind = .elseBranch → ∀ other, ¬ BeginsWith .elseIf inner other) ∧
        value = kept kind rest := by
  constructor
  · intro found
    obtain ⟨rest, begins, same⟩ := beginsWith_of_controlIn? reordered found
    refine ⟨rest, begins, ?_, same⟩
    rintro rfl
    exact not_elseIf_of_controlIn? reordered elseIfFirst found
  · rintro ⟨rest, begins, preferred, rfl⟩
    obtain ⟨other, value, found⟩ := exists_controlIn?_of_beginsWith reordered begins
    obtain ⟨otherRest, otherBegins, rfl⟩ := beginsWith_of_controlIn? reordered found
    rcases begins.kind_eq_or otherBegins with rfl | ⟨rfl, rfl⟩ | ⟨rfl, rfl⟩
    · rw [found, begins.rest_eq otherBegins]
    · exact absurd begins (not_elseIf_of_controlIn? reordered elseIfFirst found rest)
    · exact absurd otherBegins (preferred rfl otherRest)

end Table

theorem elseIfFirst_keywords : ElseIfFirst keywords := by
  rw [ElseIfFirst, keywords]
  decide

theorem control?_eq_some_iff {inner : List Char} {kind : TokenKind} {value : Option String} :
    control? inner = some (kind, value) ↔
      ∃ rest, BeginsWith kind inner rest ∧
        (kind = .elseBranch → ∀ other, ¬ BeginsWith .elseIf inner other) ∧
        value = kept kind rest := by
  rw [← controlIn?_keywords]
  exact controlIn?_eq_some_iff (.refl _) elseIfFirst_keywords

/-- A control tag has a token exactly if its text begins with a control word. The token is that of
the word, of `else if` rather than `else`, and keeps the trimmed rest of the text where the word takes
one. Since no other two words fit at once, the words can be tried in any other order as well. -/
theorem control_tag_exact (inner : List Char) :
    (∀ including file location tokens,
      ofSegment including file location (.tag .control inner) = .ok tokens ↔
        ∃ kind rest, BeginsWith kind inner rest ∧
          (kind = .elseBranch → ∀ other, ¬ BeginsWith .elseIf inner other) ∧
          tokens = [⟨kind, kept kind rest, location⟩]) ∧
    (∀ including file location,
      (∃ tokens, ofSegment including file location (.tag .control inner) = .ok tokens) ↔
        ∃ kind rest, BeginsWith kind inner rest) ∧
    (∀ kind other rest otherRest, BeginsWith kind inner rest → BeginsWith other inner otherRest →
      kind = other ∨ (kind = .elseIf ∧ other = .elseBranch) ∨
        (kind = .elseBranch ∧ other = .elseIf)) ∧
    (∀ table, table.Perm keywords → ElseIfFirst table →
      controlIn? table inner = control? inner) := by
  have scanned (including : Path → Location → Except ScanError (List Token)) (file : String)
      (location : Location) (tokens : List Token) :
      ofSegment including file location (.tag .control inner) = .ok tokens ↔
        ∃ kind value, control? inner = some (kind, value) ∧
          tokens = [⟨kind, value, location⟩] := by
    rw [ofSegment]
    cases control? inner with
    | none => simp
    | some said => simp [Prod.ext_iff, eq_comm]
  refine ⟨?_, ?_, fun kind other rest otherRest => BeginsWith.kind_eq_or, ?_⟩
  · intro including file location tokens
    simp only [scanned, control?_eq_some_iff]
    constructor
    · rintro ⟨kind, _, ⟨rest, begins, preferred, rfl⟩, rfl⟩
      exact ⟨kind, rest, begins, preferred, rfl⟩
    · rintro ⟨kind, rest, begins, preferred, rfl⟩
      exact ⟨kind, _, ⟨rest, begins, preferred, rfl⟩, rfl⟩
  · intro including file location
    simp only [scanned]
    constructor
    · rintro ⟨_, kind, value, found, _⟩
      obtain ⟨rest, begins, _⟩ := control?_eq_some_iff.mp found
      exact ⟨kind, rest, begins⟩
    · rintro ⟨kind, rest, begins⟩
      obtain ⟨other, value, found⟩ := exists_controlIn?_of_beginsWith (.refl _) begins
      rw [controlIn?_keywords] at found
      exact ⟨_, other, value, found, rfl⟩
  · intro table reordered elseIfFirst
    ext ⟨kind, value⟩
    rw [control?_eq_some_iff]
    exact controlIn?_eq_some_iff reordered elseIfFirst

end Token

end Stencil
