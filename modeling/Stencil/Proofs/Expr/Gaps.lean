import Stencil.Expr.Lexer
import Stencil.Proofs.Text.Trimming

/-!
Blanks between words. A word ends at a blank at the latest, so that what stands before a blank is
read as if nothing followed it, and the words of two texts with blanks between them are the words of
the one and then those of the other.
-/

namespace Stencil

namespace Text

theorem toNat_of_isDigit {character : Char} (digit : character.isDigit = true) :
    48 ≤ character.toNat ∧ character.toNat ≤ 57 := by
  simp only [Char.isDigit, Bool.and_eq_true, decide_eq_true_eq] at digit
  exact ⟨UInt32.le_iff_toNat_le.mp digit.1, UInt32.le_iff_toNat_le.mp digit.2⟩

theorem isNamePart_of_isDigit {character : Char} (digit : character.isDigit = true) :
    isNamePart character = true := by
  have bounds := toNat_of_isDigit digit
  have numeral : isNumeral character = true := by
    rw [isNumeral, if_pos (by omega)]
    exact digit
  simp [isNamePart, numeral]

theorem isDigit_of_isNameStart {character : Char} (start : isNameStart character = true) :
    character.isDigit = false := by
  cases digit : character.isDigit with
  | false => rfl
  | true =>
      have bounds := toNat_of_isDigit digit
      have digits : ∀ code ∈ List.range' 48 10, isNameStart (Char.ofNat code) = false := by decide
      have other := digits character.toNat (List.mem_range'_1.mpr (by omega))
      rw [Char.ofNat_toNat, start] at other
      exact other

section Blank

variable {blank : Char} (gap : isBlank blank = true)

include gap

theorem isNamePart_of_isBlank : isNamePart blank = false := by
  cases part : isNamePart blank with
  | false => rfl
  | true => simp [isBlank_of_isNamePart part] at gap

theorem isNameStart_of_isBlank : isNameStart blank = false := by
  cases start : isNameStart blank with
  | false => rfl
  | true => simp [isBlank_of_isNamePart (isNamePart_of_isNameStart start)] at gap

theorem isDigit_of_isBlank : blank.isDigit = false := by
  cases digit : blank.isDigit with
  | false => rfl
  | true => simp [isBlank_of_isNamePart (isNamePart_of_isDigit digit)] at gap

end Blank

end Text

namespace Lexeme

theorem readAll?_eq (text : List Char) :
    readAll? text =
      match Text.trimStart text with
      | [] => some []
      | first :: rest =>
          match readWord? first rest with
          | none => none
          | some (word, after) => (readAll? after).map fun words => word :: words := by
  rw [readAll?]
  split
  · rename_i trimmed
    rw [trimmed]
  · rename_i first rest trimmed
    rw [trimmed]
    split
    · rename_i found
      simp only [found]
    · rename_i word after found
      simp only [found]

section Quoted

variable {quote : Char}

theorem readQuoted?_quote (rest : List Char) :
    readQuoted? quote (quote :: rest) = some ([], rest) := by
  rw [readQuoted?.eq_def]
  simp

theorem readQuoted?_escape (quotes : '\\' ≠ quote) (escape : Char) (rest : List Char) :
    readQuoted? quote ('\\' :: escape :: rest) =
      (readQuoted? quote rest).map fun (content, after) => (escaped escape :: content, after) := by
  rw [readQuoted?.eq_def]
  simp [quotes]

theorem readQuoted?_plain {character : Char} (quotes : character ≠ quote)
    (escapes : character ≠ '\\') (ends : character ≠ '\n') (rest : List Char) :
    readQuoted? quote (character :: rest) =
      (readQuoted? quote rest).map fun (content, after) => (character :: content, after) := by
  rw [readQuoted?.eq_def]
  simp [quotes, escapes, ends]

theorem readQuoted?_append {text content after : List Char}
    (read : readQuoted? quote text = some (content, after)) (more : List Char) :
    readQuoted? quote (text ++ more) = some (content, after ++ more) := by
  fun_induction readQuoted? quote text generalizing content with
  | case1 => simp at read
  | case2 rest =>
      simp only [Option.some.injEq, Prod.mk.injEq] at read
      rw [List.cons_append, readQuoted?_quote, read.1, read.2]
  | case3 => simp at read
  | case4 escape rest quotes ih =>
      simp only [Option.map_eq_some_iff, Prod.mk.injEq, Prod.exists] at read
      obtain ⟨inner, after, found, rfl, rfl⟩ := read
      rw [List.cons_append, List.cons_append, readQuoted?_escape quotes, ih found, Option.map_some]
  | case5 => simp at read
  | case6 character rest quotes escapes ends ih =>
      simp only [Option.map_eq_some_iff, Prod.mk.injEq, Prod.exists] at read
      obtain ⟨inner, after, found, rfl, rfl⟩ := read
      rw [List.cons_append, readQuoted?_plain quotes escapes ends, ih found, Option.map_some]

end Quoted

def splitSign : List Char → List Char × List Char
  | '+' :: digits => (['+'], digits)
  | '-' :: digits => (['-'], digits)
  | digits => ([], digits)

theorem splitSign_unsigned {first : Char} (plus : first ≠ '+') (minus : first ≠ '-')
    (rest : List Char) : splitSign (first :: rest) = ([], first :: rest) := by
  simp [splitSign, plus, minus]

theorem splitPower_cons (mark : Char) (rest : List Char) :
    splitPower (mark :: rest) =
      if mark = 'e' ∨ mark = 'E' then
        if ((splitSign rest).2.takeWhile Char.isDigit).isEmpty then ([], mark :: rest)
        else (mark :: ((splitSign rest).1 ++ (splitSign rest).2.takeWhile Char.isDigit),
          (splitSign rest).2.dropWhile Char.isDigit)
      else ([], mark :: rest) := rfl

section Gap

variable {blank : Char} (gap : Text.isBlank blank = true) (more : List Char)

section Spans

variable {part : Char → Bool} (stops : part blank = false) (text : List Char)

include stops

theorem takeWhile_gap : (text ++ blank :: more).takeWhile part = text.takeWhile part := by
  induction text with
  | nil => simp [stops]
  | cons character text ih => simp only [List.cons_append, List.takeWhile_cons, ih]

theorem dropWhile_gap :
    (text ++ blank :: more).dropWhile part = text.dropWhile part ++ blank :: more := by
  induction text with
  | nil => simp [stops]
  | cons character text ih =>
      simp only [List.cons_append, List.dropWhile_cons, ih]
      split <;> rfl

end Spans

theorem dropStart?_gap {start : List Char} (solid : blank ∉ start) (text : List Char) :
    Text.dropStart? start (text ++ blank :: more) =
      (Text.dropStart? start text).map (· ++ blank :: more) := by
  induction start generalizing text with
  | nil => rfl
  | cons expected start ih =>
      rw [List.mem_cons, not_or] at solid
      cases text with
      | nil => simp [Text.dropStart?, Ne.symm solid.1]
      | cons character text =>
          simp only [List.cons_append, Text.dropStart?, ih solid.2]
          split <;> rfl

include gap

theorem splitSign_gap (text : List Char) :
    splitSign (text ++ blank :: more) =
      ((splitSign text).1, (splitSign text).2 ++ blank :: more) := by
  have unsigned : blank ≠ '+' ∧ blank ≠ '-' := by
    refine ⟨?_, ?_⟩ <;> rintro rfl <;> exact absurd gap (by decide)
  cases text with
  | nil => exact splitSign_unsigned unsigned.1 unsigned.2 more
  | cons first text =>
      by_cases plus : first = '+'
      · subst plus
        rfl
      by_cases minus : first = '-'
      · subst minus
        rfl
      rw [List.cons_append, splitSign_unsigned plus minus, splitSign_unsigned plus minus,
        List.cons_append]

theorem splitPower_gap (text : List Char) :
    splitPower (text ++ blank :: more) =
      ((splitPower text).1, (splitPower text).2 ++ blank :: more) := by
  have noDigit := Text.isDigit_of_isBlank gap
  cases text with
  | nil =>
      have unmarked : ¬ (blank = 'e' ∨ blank = 'E') := by
        rintro (rfl | rfl) <;> exact absurd gap (by decide)
      rw [List.nil_append, splitPower_cons, if_neg unmarked]
      rfl
  | cons mark text =>
      rw [List.cons_append, splitPower_cons, splitPower_cons, splitSign_gap gap more,
        takeWhile_gap more noDigit, dropWhile_gap more noDigit]
      split
      · split <;> rfl
      · rfl

theorem readNumber?_gap (text : List Char) :
    readNumber? (text ++ blank :: more) =
      (readNumber? text).map fun (word, after) => (word, after ++ blank :: more) := by
  have noPart : isNumberPart blank = false := by
    have noPoint : blank ≠ '.' := by
      rintro rfl
      exact absurd gap (by decide)
    simp [isNumberPart, Text.isDigit_of_isBlank gap, noPoint]
  have noName := Text.isNameStart_of_isBlank gap
  simp only [readNumber?, takeWhile_gap more noPart, dropWhile_gap more noPart,
    splitPower_gap gap more]
  cases (splitPower (text.dropWhile isNumberPart)).2 with
  | nil => simp [noName, Function.comp_def]
  | cons next rest =>
      cases start : Text.isNameStart next with
      | true => simp [start]
      | false => simp [start, Function.comp_def]

theorem readSymbol?_gap (text : List Char) :
    readSymbol? (text ++ blank :: more) =
      (readSymbol? text).map fun (word, after) => (word, after ++ blank :: more) := by
  have solid (mark : Symbol) : blank ∉ mark.chars := by
    have solid : mark.chars.all (fun character => !Text.isBlank character) = true := by
      cases mark <;> decide
    intro member
    have other := List.all_eq_true.mp solid blank member
    simp [gap] at other
  simp only [readSymbol?, List.map_findSome?, dropStart?_gap more (solid _), Option.map_map,
    Function.comp_def]

/-- What stands before a blank is read as if the blank were the end of the text. -/
theorem readWord?_gap {first : Char} {rest after : List Char} {word : Lexeme}
    (read : readWord? first rest = some (word, after)) :
    readWord? first (rest ++ blank :: more) = some (word, after ++ blank :: more) := by
  have point : ((rest ++ blank :: more).head?.map Char.isDigit).getD false =
      (rest.head?.map Char.isDigit).getD false := by
    cases rest with
    | nil => exact Text.isDigit_of_isBlank gap
    | cons _ _ => rfl
  rw [readWord?] at read
  rw [readWord?, point]
  split at read
  · rename_i number
    rw [if_pos number, ← List.cons_append, readNumber?_gap gap more, read, Option.map_some]
  · rename_i number
    rw [if_neg number]
    split at read
    · rename_i quotes
      simp only [Option.map_eq_some_iff, Prod.mk.injEq, Prod.exists] at read
      obtain ⟨content, after, found, rfl, rfl⟩ := read
      rw [if_pos quotes, readQuoted?_append found, Option.map_some]
    · rename_i quotes
      rw [if_neg quotes]
      split at read
      · rename_i start
        have noPart := Text.isNamePart_of_isBlank gap
        simp only [Option.some.injEq, Prod.mk.injEq] at read
        rw [if_pos start, takeWhile_gap more noPart, dropWhile_gap more noPart, read.1, read.2]
      · rename_i start
        rw [if_neg start, ← List.cons_append, readSymbol?_gap gap more, read, Option.map_some]

theorem readAll?_blank : readAll? (blank :: more) = readAll? more := by
  rw [readAll?_eq, Text.trimStart_cons_of_blank gap, ← readAll?_eq]

theorem trimStart_gap (text : List Char) :
    Text.trimStart (text ++ blank :: more) =
      match Text.trimStart text with
      | [] => Text.trimStart more
      | first :: rest => first :: (rest ++ blank :: more) := by
  induction text with
  | nil => exact Text.trimStart_cons_of_blank gap more
  | cons character text ih =>
      cases solid : Text.isBlank character with
      | false => simp [Text.trimStart, solid]
      | true =>
          rw [List.cons_append, Text.trimStart_cons_of_blank solid, ih,
            Text.trimStart_cons_of_blank solid]

/-- The words before a blank and the words behind it. -/
theorem readAll?_gap {text : List Char} {words : List Lexeme} (read : readAll? text = some words) :
    readAll? (text ++ blank :: more) = (readAll? more).map fun others => words ++ others := by
  fun_induction readAll? text generalizing words with
  | case1 text empty =>
      cases Option.some.inj read
      rw [readAll?_eq, trimStart_gap gap more, empty, readAll?_eq more]
      simp
  | case2 => simp at read
  | case3 text first rest start word after found ih =>
      simp only [Option.map_eq_some_iff] at read
      obtain ⟨words, later, rfl⟩ := read
      rw [readAll?_eq, trimStart_gap gap more, start]
      simp only [readWord?_gap gap more found, ih later, Option.map_map]
      rfl

end Gap

theorem readAll?_blanks {blanks : List Char}
    (gap : ∀ character ∈ blanks, Text.isBlank character = true) (more : List Char) :
    readAll? (blanks ++ more) = readAll? more := by
  induction blanks with
  | nil => rfl
  | cons blank blanks ih =>
      rw [List.cons_append, readAll?_blank (gap blank List.mem_cons_self),
        ih fun other member => gap other (List.mem_cons_of_mem blank member)]

/-- Texts with blanks between them are read one after the other. -/
theorem readAll?_append_gap {left right blanks : List Char} {words others : List Lexeme}
    (leftRead : readAll? left = some words) (rightRead : readAll? right = some others)
    (filled : blanks ≠ []) (gap : ∀ character ∈ blanks, Text.isBlank character = true) :
    readAll? (left ++ (blanks ++ right)) = some (words ++ others) := by
  cases blanks with
  | nil => exact absurd rfl filled
  | cons blank blanks =>
      have first := gap blank List.mem_cons_self
      have later := fun other member => gap other (List.mem_cons_of_mem blank member)
      rw [List.cons_append, readAll?_gap first _ leftRead, readAll?_blanks later, rightRead,
        Option.map_some]

end Lexeme

end Stencil
