import Mathlib.Data.List.TakeWhile
import Stencil.Proofs.Expr.Gaps

/-!
How words are written. Numbers are digits with an optional fraction and an optional power of ten,
texts stand in quotes with what cannot stand for itself escaped, and all other words are written as
they are. Words with blanks between them are read back as those words.
-/

namespace Stencil

namespace Lexeme

structure Power where
  mark : Char
  sign : List Char
  digits : List Char
  mark_eq : mark = 'e' ∨ mark = 'E'
  sign_eq : sign = [] ∨ sign = ['+'] ∨ sign = ['-']
  filled : digits ≠ []
  all_digits : ∀ digit ∈ digits, digit.isDigit = true

namespace Power

def chars (power : Power) : List Char := power.mark :: (power.sign ++ power.digits)

def value (power : Power) : Int :=
  if power.sign = ['-'] then -(Binary64.digitsValue power.digits : Int)
  else Binary64.digitsValue power.digits

end Power

structure Numeral where
  whole : List Char
  fraction : Option (List Char)
  power : Option Power
  filled : whole ≠ [] ∨ fraction.getD [] ≠ []
  whole_digits : ∀ digit ∈ whole, digit.isDigit = true
  fraction_digits : ∀ digit ∈ fraction.getD [], digit.isDigit = true

namespace Numeral

variable (numeral : Numeral)

def fractionChars : List Char := (numeral.fraction.map ('.' :: ·)).getD []

def powerChars : List Char := (numeral.power.map Power.chars).getD []

def chars : List Char := numeral.whole ++ (numeral.fractionChars ++ numeral.powerChars)

def value : Float :=
  let fraction := numeral.fraction.getD []
  Binary64.ofDecimal (Binary64.digitsValue (numeral.whole ++ fraction))
    ((numeral.power.map Power.value).getD 0 - fraction.length)

end Numeral

def escape (quote character : Char) : List Char :=
  if character = '\\' then ['\\', '\\']
  else if character = quote then ['\\', quote]
  else if character = '\n' then ['\\', 'n']
  else if character = '\t' then ['\\', 't']
  else if character = '\r' then ['\\', 'r']
  else if character = Char.ofNat 0 then ['\\', '0']
  else [character]

def quoted (quote : Char) (content : List Char) : List Char :=
  quote :: (content.flatMap (escape quote) ++ [quote])

inductive Writes : Lexeme → List Char → Prop
  | number (numeral : Numeral) : Writes (.number numeral.value) numeral.chars
  | text {quote : Char} {content : String} (either : quote = '\'' ∨ quote = '"') :
      Writes (.text content) (quoted quote content.toList)
  | name {written : String} (named : Text.isName written.toList = true)
      (free : Keyword.ofText? written = none) : Writes (.name written) written.toList
  | keyword (word : Keyword) : Writes (.keyword word) word.text.toList
  | symbol (mark : Symbol) : Writes (.symbol mark) mark.chars

/-- Words one after the other, with blanks behind each of them; only behind the last one there may
be none. -/
inductive Written : List Lexeme → List Char → Prop
  | nothing : Written [] []
  | word {word : Lexeme} {body blanks : List Char} {words : List Lexeme} {text : List Char}
      (writes : Writes word body) (gap : ∀ character ∈ blanks, Text.isBlank character = true)
      (apart : words ≠ [] → blanks ≠ []) (written : Written words text) :
      Written (word :: words) (body ++ (blanks ++ text))

theorem readAll?_word {first : Char} {rest : List Char} {word : Lexeme}
    (solid : Text.isBlank first = false) (read : readWord? first rest = some (word, [])) :
    readAll? (first :: rest) = some [word] := by
  have start : Text.trimStart (first :: rest) = first :: rest :=
    Text.trimStart_eq_self_iff.mpr (by simpa using solid)
  have done : readAll? [] = some [] := by
    rw [readAll?_eq]
    rfl
  rw [readAll?_eq, start]
  simp only [read, done]
  rfl

theorem readAll?_symbol (mark : Symbol) : readAll? mark.chars = some [.symbol mark] := by
  cases mark <;> exact readAll?_word (by decide) rfl

/-- A name alone is one word, which is a keyword if it is one of the four. -/
theorem readAll?_name {name : List Char} (named : Text.isName name = true) :
    readAll? name = some [ofName (String.ofList name)] := by
  cases name with
  | nil => exact nomatch named
  | cons first rest =>
      have solid := Text.isBlank_of_isNamePart
        (Text.isNamePart_of_mem_name named first List.mem_cons_self)
      rw [Text.isName, Bool.and_eq_true, List.all_eq_true] at named
      obtain ⟨start, parts⟩ := named
      have plain : first ≠ '.' ∧ first ≠ '\'' ∧ first ≠ '"' := by
        refine ⟨?_, ?_, ?_⟩ <;> rintro rfl <;> exact absurd start (by decide)
      have taken : rest.takeWhile Text.isNamePart = rest := List.takeWhile_eq_self_iff.mpr parts
      have left : rest.dropWhile Text.isNamePart = [] := List.dropWhile_eq_nil_iff.mpr parts
      refine readAll?_word solid ?_
      rw [readWord?, taken, left]
      simp [Text.isDigit_of_isNameStart start, plain, start]

section Quoted

variable {quote : Char} (either : quote = '\'' ∨ quote = '"')

include either

theorem readQuoted?_escaped (character : Char) (rest : List Char) :
    readQuoted? quote (escape quote character ++ rest) =
      (readQuoted? quote rest).map fun (content, after) => (character :: content, after) := by
  have quotes : '\\' ≠ quote := by rcases either with rfl | rfl <;> decide
  have itself : escaped quote = quote := by rcases either with rfl | rfl <;> decide
  have special (code : Char) (stands : escaped code = character) :
      readQuoted? quote (['\\', code] ++ rest) =
        (readQuoted? quote rest).map fun (content, after) => (character :: content, after) := by
    rw [← stands]
    exact readQuoted?_escape quotes code rest
  unfold escape
  split
  · rename_i same
    exact special '\\' (by rw [same]; decide)
  split
  · rename_i same
    exact special quote (by rw [same, itself])
  split
  · rename_i same
    exact special 'n' (by rw [same]; decide)
  split
  · rename_i same
    exact special 't' (by rw [same]; decide)
  split
  · rename_i same
    exact special 'r' (by rw [same]; decide)
  split
  · rename_i same
    exact special '0' (by rw [same]; decide)
  · rename_i backslash closes ends _ _ _
    exact readQuoted?_plain closes backslash ends rest

theorem readQuoted?_content (content rest : List Char) :
    readQuoted? quote (content.flatMap (escape quote) ++ (quote :: rest)) =
      some (content, rest) := by
  induction content with
  | nil => exact readQuoted?_quote rest
  | cons character content ih =>
      rw [List.flatMap_cons, List.append_assoc, readQuoted?_escaped either, ih, Option.map_some]

theorem readAll?_quoted (content : String) :
    readAll? (quoted quote content.toList) = some [.text content] := by
  have start : Text.isBlank quote = false ∧ quote.isDigit = false ∧ quote ≠ '.' := by
    rcases either with rfl | rfl <;> decide
  refine readAll?_word start.1 ?_
  rw [readWord?]
  simp [start, either, readQuoted?_content either]

end Quoted

theorem ne_sign_of_isDigit {character : Char} (digit : character.isDigit = true) :
    character ≠ '+' ∧ character ≠ '-' := by
  refine ⟨?_, ?_⟩ <;> rintro rfl <;> exact absurd digit (by decide)

namespace Power

variable (power : Power)

theorem splitSign_digits : splitSign (power.sign ++ power.digits) = (power.sign, power.digits) := by
  obtain ⟨first, rest, spelled⟩ := List.exists_cons_of_ne_nil power.filled
  obtain ⟨plus, minus⟩ := ne_sign_of_isDigit (power.all_digits first (by simp [spelled]))
  rcases power.sign_eq with sign | sign | sign
  · rw [sign, List.nil_append, spelled, splitSign_unsigned plus minus]
  · rw [sign]
    rfl
  · rw [sign]
    rfl

theorem splitPower_chars : splitPower power.chars = (power.chars, []) := by
  have taken : power.digits.takeWhile Char.isDigit = power.digits :=
    List.takeWhile_eq_self_iff.mpr power.all_digits
  have left : power.digits.dropWhile Char.isDigit = [] :=
    List.dropWhile_eq_nil_iff.mpr power.all_digits
  have filled : power.digits.isEmpty = false := by simp [power.filled]
  rw [chars, splitPower_cons, if_pos power.mark_eq, splitSign_digits]
  simp [taken, left, filled]

theorem readExponent?_chars : Binary64.readExponent? power.chars = some power.value := by
  obtain ⟨first, rest, spelled⟩ := List.exists_cons_of_ne_nil power.filled
  obtain ⟨plus, minus⟩ := ne_sign_of_isDigit (power.all_digits first (by simp [spelled]))
  have digits : (first :: rest).all Char.isDigit = true := by
    simpa [← spelled] using power.all_digits
  rcases power.sign_eq with sign | sign | sign
  · simp [Binary64.readExponent?, chars, value, power.mark_eq, sign, spelled, digits, plus, minus]
  · simp [Binary64.readExponent?, chars, value, power.mark_eq, sign, spelled, digits]
  · simp [Binary64.readExponent?, chars, value, power.mark_eq, sign, spelled, digits]

end Power

namespace Numeral

variable (numeral : Numeral)

theorem splitPower_powerChars : splitPower numeral.powerChars = (numeral.powerChars, []) := by
  unfold powerChars
  cases numeral.power with
  | none => rfl
  | some power => exact power.splitPower_chars

/-- The digits of a number end where its power starts. -/
theorem span_powerChars (part : Char → Bool) (stops : part 'e' = false ∧ part 'E' = false) :
    numeral.powerChars.takeWhile part = [] ∧
      numeral.powerChars.dropWhile part = numeral.powerChars := by
  unfold powerChars
  cases numeral.power with
  | none => exact ⟨rfl, rfl⟩
  | some power =>
      have outside : part power.mark = false := by
        rcases power.mark_eq with mark | mark <;> simp [mark, stops]
      simp [Power.chars, outside]

theorem readNumber?_chars : readNumber? numeral.chars =
    (Binary64.read? numeral.chars).map fun value => (.number value, []) := by
  have digits : ∀ character ∈ numeral.whole ++ numeral.fraction.getD [],
      isNumberPart character = true := by
    intro character member
    have digit := (List.mem_append.mp member).elim (numeral.whole_digits character)
      (numeral.fraction_digits character)
    simp [isNumberPart, digit]
  have parts : ∀ character ∈ numeral.whole ++ numeral.fractionChars,
      isNumberPart character = true := by
    intro character member
    unfold fractionChars at member
    cases fraction : numeral.fraction with
    | none => exact digits character (by simpa [fraction] using member)
    | some behind =>
        by_cases point : character = '.'
        · rw [point]
          rfl
        · exact digits character (by simpa [fraction, point] using member)
  obtain ⟨taken, left⟩ := numeral.span_powerChars isNumberPart (by decide)
  have mantissa : numeral.chars.takeWhile isNumberPart =
      numeral.whole ++ numeral.fractionChars := by
    rw [chars, ← List.append_assoc, List.takeWhile_append_of_pos parts, taken, List.append_nil]
  have rest : numeral.chars.dropWhile isNumberPart = numeral.powerChars := by
    rw [chars, ← List.append_assoc, List.dropWhile_append_of_pos parts, left]
  simp only [readNumber?, mantissa, rest, splitPower_powerChars, List.append_assoc]
  rfl

def splitFraction : List Char → List Char × List Char
  | '.' :: rest => (rest.takeWhile Char.isDigit, rest.dropWhile Char.isDigit)
  | rest => ([], rest)

theorem readMagnitude?_eq (text : List Char) : Binary64.readMagnitude? text =
    if (text.takeWhile Char.isDigit).isEmpty ∧
        (splitFraction (text.dropWhile Char.isDigit)).1.isEmpty then none
    else
      (Binary64.readExponent? (splitFraction (text.dropWhile Char.isDigit)).2).map fun exponent =>
        Binary64.ofDecimal
          (Binary64.digitsValue
            (text.takeWhile Char.isDigit ++ (splitFraction (text.dropWhile Char.isDigit)).1))
          (exponent - (splitFraction (text.dropWhile Char.isDigit)).1.length) := rfl

theorem splitFraction_chars : splitFraction (numeral.fractionChars ++ numeral.powerChars) =
    (numeral.fraction.getD [], numeral.powerChars) := by
  obtain ⟨taken, left⟩ := numeral.span_powerChars Char.isDigit (by decide)
  have digits := numeral.fraction_digits
  unfold fractionChars
  cases fraction : numeral.fraction with
  | none =>
      unfold powerChars
      cases numeral.power with
      | none => rfl
      | some power =>
          rcases power.mark_eq with mark | mark <;> simp [Power.chars, mark, splitFraction]
  | some behind =>
      rw [fraction, Option.getD_some] at digits
      simp [splitFraction, List.takeWhile_append_of_pos digits, taken,
        List.dropWhile_append_of_pos digits, left]

theorem readExponent?_powerChars : Binary64.readExponent? numeral.powerChars =
    some ((numeral.power.map Power.value).getD 0) := by
  unfold powerChars
  cases numeral.power with
  | none => rfl
  | some power => exact power.readExponent?_chars

/-- No digit stands before the point or the power. -/
theorem span_fractionChars :
    (numeral.fractionChars ++ numeral.powerChars).takeWhile Char.isDigit = [] ∧
      (numeral.fractionChars ++ numeral.powerChars).dropWhile Char.isDigit =
        numeral.fractionChars ++ numeral.powerChars := by
  unfold fractionChars
  cases numeral.fraction with
  | none => exact numeral.span_powerChars Char.isDigit (by decide)
  | some behind => exact ⟨rfl, rfl⟩

theorem readMagnitude?_chars : Binary64.readMagnitude? numeral.chars = some numeral.value := by
  obtain ⟨taken, left⟩ := numeral.span_fractionChars
  have whole : numeral.chars.takeWhile Char.isDigit = numeral.whole := by
    rw [chars, List.takeWhile_append_of_pos numeral.whole_digits, taken, List.append_nil]
  have rest : numeral.chars.dropWhile Char.isDigit =
      numeral.fractionChars ++ numeral.powerChars := by
    rw [chars, List.dropWhile_append_of_pos numeral.whole_digits, left]
  have filled : ¬ (numeral.whole.isEmpty = true ∧ (numeral.fraction.getD []).isEmpty = true) := by
    simpa [Decidable.imp_iff_not_or] using numeral.filled
  rw [readMagnitude?_eq, whole, rest, splitFraction_chars, if_neg filled, readExponent?_powerChars]
  rfl

/-- A number starts with a digit, or with a point and a digit. -/
theorem chars_start : ∃ first rest, numeral.chars = first :: rest ∧
    (first.isDigit = true ∨ first = '.' ∧ (rest.head?.map Char.isDigit).getD false = true) := by
  cases spelled : numeral.whole with
  | cons first rest =>
      have digit := numeral.whole_digits first (by simp [spelled])
      exact ⟨first, rest ++ (numeral.fractionChars ++ numeral.powerChars), by simp [chars, spelled],
        .inl digit⟩
  | nil =>
      have behind := numeral.filled.resolve_left (by simp [spelled])
      cases fraction : numeral.fraction with
      | none => simp [fraction] at behind
      | some digits =>
          rw [fraction, Option.getD_some] at behind
          obtain ⟨first, rest, digitsSpelled⟩ := List.exists_cons_of_ne_nil behind
          have digit := numeral.fraction_digits first (by simp [fraction, digitsSpelled])
          refine ⟨'.', first :: (rest ++ numeral.powerChars), ?_, .inr ⟨rfl, digit⟩⟩
          simp [chars, spelled, fractionChars, fraction, digitsSpelled]

theorem read?_chars : Binary64.read? numeral.chars = some numeral.value := by
  have magnitude := numeral.readMagnitude?_chars
  obtain ⟨first, rest, spelled, start⟩ := numeral.chars_start
  obtain ⟨plus, minus⟩ : first ≠ '+' ∧ first ≠ '-' := by
    rcases start with digit | ⟨point, _⟩
    · exact ne_sign_of_isDigit digit
    · rw [point]
      decide
  rw [spelled] at magnitude
  rw [spelled, Binary64.read?]
  · rw [Binary64.readUnsigned?, magnitude, Option.some_or]
  · exact fun _ same => minus (List.cons.inj same).1
  · exact fun _ same => plus (List.cons.inj same).1

end Numeral

theorem readAll?_number (numeral : Numeral) :
    readAll? numeral.chars = some [.number numeral.value] := by
  have read := numeral.readNumber?_chars
  rw [numeral.read?_chars, Option.map_some] at read
  obtain ⟨first, rest, spelled, start⟩ := numeral.chars_start
  have solid : Text.isBlank first = false := by
    rcases start with digit | ⟨point, _⟩
    · exact Text.isBlank_of_isNamePart (Text.isNamePart_of_isDigit digit)
    · rw [point]
      decide
  have number : (first.isDigit || first == '.' && (rest.head?.map Char.isDigit).getD false) =
      true := by
    rcases start with digit | ⟨point, digit⟩
    · simp [digit]
    · simp [point, digit]
  rw [spelled] at read ⊢
  refine readAll?_word solid ?_
  rw [readWord?, if_pos number, read]

/-- However a word is written, it is read back. -/
theorem readAll?_of_writes {word : Lexeme} {body : List Char} (writes : Writes word body) :
    readAll? body = some [word] := by
  cases writes with
  | number numeral => exact readAll?_number numeral
  | text either => exact readAll?_quoted either _
  | name named free =>
      rw [readAll?_name named, String.ofList_toList, ofName, free]
  | keyword word => cases word <;> exact readAll?_name (by decide)
  | symbol mark => exact readAll?_symbol mark

theorem readAll?_of_written {words : List Lexeme} {text : List Char}
    (written : Written words text) : readAll? text = some words := by
  induction written with
  | nothing =>
      rw [readAll?_eq]
      rfl
  | @word word body blanks words text writes gap apart written ih =>
      have first := readAll?_of_writes writes
      cases blanks with
      | cons blank blanks => exact readAll?_append_gap first ih (by simp) gap
      | nil =>
          cases written with
          | nothing => simpa using first
          | word => exact absurd rfl (apart (by simp))

/-- Reading undoes writing: words with blanks between them, and any blanks before them, are read as
those words, each number as the value that its text has for itself; and reading goes over blanks as
if the texts before and behind them were read apart. -/
theorem reading_undoes_writing :
    (∀ (words : List Lexeme) (text before : List Char), Written words text →
      (∀ character ∈ before, Text.isBlank character = true) →
      readAll? (before ++ text) = some words) ∧
    (∀ numeral : Numeral, Binary64.read? numeral.chars = some numeral.value) ∧
    (∀ (left right blanks : List Char) (words others : List Lexeme),
      readAll? left = some words → readAll? right = some others → blanks ≠ [] →
      (∀ character ∈ blanks, Text.isBlank character = true) →
      readAll? (left ++ (blanks ++ right)) = some (words ++ others)) := by
  refine ⟨?_, Numeral.read?_chars, ?_⟩
  · intro words text before written gap
    rw [readAll?_blanks gap, readAll?_of_written written]
  · intro left right blanks words others leftRead rightRead filled gap
    exact readAll?_append_gap leftRead rightRead filled gap

/-- A name that starts like a power, the longest symbol, a number with all its parts, and a text
that holds its own quote. -/
theorem reading_undoes_writing_of_words :
    let number : Numeral := {
      whole := ['1']
      fraction := some ['5']
      power := some {
        mark := 'e'
        sign := ['-']
        digits := ['3']
        mark_eq := .inl rfl
        sign_eq := .inr (.inr rfl)
        filled := by decide
        all_digits := List.all_eq_true.mp rfl }
      filled := .inl (by decide)
      whole_digits := List.all_eq_true.mp rfl
      fraction_digits := List.all_eq_true.mp rfl }
    let words : List Lexeme := [.name "e1", .symbol .same, .number number.value, .text "it's"]
    readAll? " e1 ===\t1.5e-3\n'it\\'s'".toList = some words ∧
      readAll? "e1 e1".toList = some [.name "e1", .name "e1"] := by
  intro number words
  have last : Written [.text "it's"] ("'it\\'s'".toList ++ ([] ++ [])) :=
    .word (.text (.inl rfl)) (by simp) (by simp) .nothing
  have space : ∀ character ∈ [' '], Text.isBlank character = true := List.all_eq_true.mp rfl
  have tab : ∀ character ∈ ['\t'], Text.isBlank character = true := List.all_eq_true.mp rfl
  have newline : ∀ character ∈ ['\n'], Text.isBlank character = true := List.all_eq_true.mp rfl
  have written : Written words "e1 ===\t1.5e-3\n'it\\'s'".toList :=
    .word (.name (by decide) (by decide)) space (by simp)
      (.word (.symbol .same) tab (by simp) (.word (.number number) newline (by simp) last))
  have name : readAll? "e1".toList = some [.name "e1"] := readAll?_name (by decide)
  exact ⟨reading_undoes_writing.1 words _ [' '] written space,
    reading_undoes_writing.2.2 _ _ [' '] _ _ name name (by decide) space⟩

end Lexeme

end Stencil
