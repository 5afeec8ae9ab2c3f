import Stencil.Binary64.Reader
import Stencil.Expr.Lexeme
import Stencil.Text.Blank
import Stencil.Text.Letter
import Stencil.Text.Search

/-!
Reading an expression as a list of words. Each word is as long as it can be, blanks between words
do not count, and a text that contains anything else has no reading.
-/

namespace Stencil.Lexeme

def isNumberPart (character : Char) : Bool := character.isDigit || character == '.'

def splitPower : List Char → List Char × List Char
  | [] => ([], [])
  | mark :: rest =>
      if mark = 'e' ∨ mark = 'E' then
        let (sign, digits) :=
          match rest with
          | '+' :: digits => (['+'], digits)
          | '-' :: digits => (['-'], digits)
          | digits => ([], digits)
        if (digits.takeWhile Char.isDigit).isEmpty then ([], mark :: rest)
        else (mark :: (sign ++ digits.takeWhile Char.isDigit), digits.dropWhile Char.isDigit)
      else ([], mark :: rest)

def readNumber? (text : List Char) : Option (Lexeme × List Char) :=
  let mantissa := text.takeWhile isNumberPart
  let (power, rest) := splitPower (text.dropWhile isNumberPart)
  if (rest.head?.map Text.isNameStart).getD false then none
  else (Binary64.read? (mantissa ++ power)).map fun value => (.number value, rest)

def escaped (escape : Char) : Char :=
  if escape = 'n' then '\n'
  else if escape = 't' then '\t'
  else if escape = 'r' then '\r'
  else if escape = '0' then Char.ofNat 0
  else escape

def readQuoted? (quote : Char) : List Char → Option (List Char × List Char)
  | [] => none
  | character :: rest =>
      if character = quote then some ([], rest)
      else if character = '\\' then
        match rest with
        | [] => none
        | escape :: rest =>
            (readQuoted? quote rest).map fun (content, after) => (escaped escape :: content, after)
      else if character = '\n' then none
      else (readQuoted? quote rest).map fun (content, after) => (character :: content, after)

def ofName (name : String) : Lexeme :=
  match Keyword.ofText? name with
  | some word => .keyword word
  | none => .name name

def readSymbol? (text : List Char) : Option (Lexeme × List Char) :=
  Symbol.longestFirst.findSome? fun symbol =>
    (Text.dropStart? symbol.chars text).map fun rest => (.symbol symbol, rest)

def readWord? (first : Char) (rest : List Char) : Option (Lexeme × List Char) :=
  if first.isDigit || (first == '.' && (rest.head?.map Char.isDigit).getD false) then
    readNumber? (first :: rest)
  else if first = '\'' ∨ first = '"' then
    (readQuoted? first rest).map fun (content, after) => (.text (String.ofList content), after)
  else if Text.isNameStart first then
    some (ofName (String.ofList (first :: rest.takeWhile Text.isNamePart)),
      rest.dropWhile Text.isNamePart)
  else readSymbol? (first :: rest)

theorem length_splitPower_le (text : List Char) : (splitPower text).2.length ≤ text.length := by
  cases text with
  | nil => simp [splitPower]
  | cons mark rest =>
      simp only [splitPower]
      split
      · have dropped (digits : List Char) :
            (digits.dropWhile Char.isDigit).length ≤ digits.length :=
          (List.dropWhile_sublist _).length_le
        split <;> split <;> grind
      · simp

theorem length_readQuoted?_le {quote : Char} {text content after : List Char}
    (read : readQuoted? quote text = some (content, after)) : after.length ≤ text.length := by
  fun_induction readQuoted? quote text generalizing content with
  | case1 => simp at read
  | case2 => simp_all
  | case3 => simp at read
  | case4 escape rest _ ih =>
      simp only [Option.map_eq_some_iff, Prod.mk.injEq, Prod.exists] at read
      obtain ⟨inner, after', found, _, same⟩ := read
      subst same
      have := ih found
      simp only [List.length_cons]
      omega
  | case5 => simp at read
  | case6 character rest _ _ _ ih =>
      simp only [Option.map_eq_some_iff, Prod.mk.injEq, Prod.exists] at read
      obtain ⟨inner, after', found, _, same⟩ := read
      subst same
      have := ih found
      simp only [List.length_cons]
      omega

theorem length_readNumber?_le {first : Char} {rest after : List Char} {word : Lexeme}
    (part : isNumberPart first = true) (read : readNumber? (first :: rest) = some (word, after)) :
    after.length ≤ rest.length := by
  simp only [readNumber?] at read
  split at read
  · simp at read
  · simp only [Option.map_eq_some_iff, Prod.mk.injEq] at read
    obtain ⟨_, _, _, same⟩ := read
    subst same
    refine Nat.le_trans (length_splitPower_le _) ?_
    rw [List.dropWhile_cons_of_pos part]
    exact (List.dropWhile_sublist _).length_le

theorem length_readSymbol?_le {first : Char} {rest after : List Char} {word : Lexeme}
    (read : readSymbol? (first :: rest) = some (word, after)) : after.length ≤ rest.length := by
  simp only [readSymbol?, List.findSome?_eq_some_iff] at read
  obtain ⟨_, symbol, _, _, found, _⟩ := read
  simp only [Option.map_eq_some_iff, Prod.mk.injEq] at found
  obtain ⟨_, start, _, same⟩ := found
  subst same
  have whole := congrArg List.length (Text.eq_append_of_dropStart? start)
  have filled : 0 < symbol.chars.length := by cases symbol <;> decide
  simp only [List.length_cons, List.length_append] at whole
  omega

/-- A word takes at least one character. -/
theorem length_readWord?_le {first : Char} {rest after : List Char} {word : Lexeme}
    (read : readWord? first rest = some (word, after)) : after.length ≤ rest.length := by
  simp only [readWord?] at read
  split at read
  · rename_i start
    refine length_readNumber?_le ?_ read
    simp only [Bool.or_eq_true, Bool.and_eq_true] at start
    simp only [isNumberPart, Bool.or_eq_true]
    exact start.imp id And.left
  · split at read
    · simp only [Option.map_eq_some_iff, Prod.mk.injEq, Prod.exists] at read
      obtain ⟨_, _, found, _, same⟩ := read
      subst same
      exact length_readQuoted?_le found
    · split at read
      · simp only [Option.some.injEq, Prod.mk.injEq] at read
        rw [← read.2]
        exact (List.dropWhile_sublist _).length_le
      · exact length_readSymbol?_le read

def readAll? (text : List Char) : Option (List Lexeme) :=
  match _trimmed : Text.trimStart text with
  | [] => some []
  | first :: rest =>
      match _found : readWord? first rest with
      | none => none
      | some (word, after) => (readAll? after).map fun words => word :: words
termination_by text.length
decreasing_by
  have shorter := length_readWord?_le _found
  have trimmedLength := Text.length_trimStart_le text
  rw [_trimmed, List.length_cons] at trimmedLength
  omega

end Stencil.Lexeme
