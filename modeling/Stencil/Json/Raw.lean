import Stencil.Text.Search

/-!
The shape of a JSON text, with numbers and strings kept as they are written. Reading a shape checks
the grammar only: a number may be out of range, an escaped surrogate may stand alone and nesting
may be arbitrarily deep. What a value has to satisfy beyond that is checked where it is used.
-/

namespace Stencil.Json

inductive Raw where
  | null
  | bool (value : Bool)
  | number (text : List Char)
  | string (body : List Char)
  | array (items : List Raw)
  | object (entries : List (List Char × Raw))

namespace Raw

def isSpace (character : Char) : Bool :=
  character == ' ' || character == '\n' || character == '\t' || character == '\r'

def skipSpace (text : List Char) : List Char := text.dropWhile isSpace

def isHexDigit (character : Char) : Bool :=
  character.isDigit || ('a' ≤ character && character ≤ 'f') ||
    ('A' ≤ character && character ≤ 'F')

def readBody? : List Char → Option (List Char × List Char)
  | [] => none
  | '"' :: text => some ([], text)
  | '\\' :: 'u' :: a :: b :: c :: d :: text =>
      if [a, b, c, d].all isHexDigit then
        (readBody? text).map fun (body, rest) => ('\\' :: 'u' :: a :: b :: c :: d :: body, rest)
      else none
  | '\\' :: escape :: text =>
      if escape ∈ ['"', '\\', '/', 'b', 'f', 'n', 'r', 't'] then
        (readBody? text).map fun (body, rest) => ('\\' :: escape :: body, rest)
      else none
  | character :: text =>
      if character.toNat < 0x20 ∨ character = '\\' then none
      else (readBody? text).map fun (body, rest) => (character :: body, rest)

def readDigits? (text : List Char) : Option (List Char × List Char) :=
  let digits := text.takeWhile Char.isDigit
  if digits.isEmpty then none else some (digits, text.dropWhile Char.isDigit)

def readWhole? : List Char → Option (List Char × List Char)
  | '0' :: text =>
      match text with
      | [] => some (['0'], [])
      | next :: rest => if next.isDigit then none else some (['0'], next :: rest)
  | text => readDigits? text

def readFraction? : List Char → Option (List Char × List Char)
  | '.' :: text => (readDigits? text).map fun (digits, rest) => ('.' :: digits, rest)
  | text => some ([], text)

def readPower? : List Char → Option (List Char × List Char)
  | [] => some ([], [])
  | mark :: text =>
      if mark = 'e' ∨ mark = 'E' then
        let (sign, text) :=
          match text with
          | '+' :: text => (['+'], text)
          | '-' :: text => (['-'], text)
          | text => ([], text)
        (readDigits? text).map fun (digits, rest) => (mark :: (sign ++ digits), rest)
      else some ([], mark :: text)

def readNumber? (text : List Char) : Option (List Char × List Char) := do
  let (sign, text) :=
    match text with
    | '-' :: text => (['-'], text)
    | text => ([], text)
  let (whole, text) ← readWhole? text
  let (fraction, text) ← readFraction? text
  let (power, text) ← readPower? text
  return (sign ++ whole ++ fraction ++ power, text)

def readKey? (text : List Char) : Option (List Char × List Char) :=
  match skipSpace text with
  | '"' :: text => do
      let (key, text) ← readBody? text
      match skipSpace text with
      | ':' :: text => some (key, text)
      | _ => none
  | _ => none

mutual

def readValue? : (fuel : Nat) → List Char → Option (Raw × List Char)
  | 0, _ => none
  | fuel + 1, text =>
      match skipSpace text with
      | '[' :: text =>
          match skipSpace text with
          | ']' :: text => some (.array [], text)
          | _ => (readItems? fuel text).map fun (items, rest) => (.array items, rest)
      | '\x7b' :: text =>
          match skipSpace text with
          | '\x7d' :: text => some (.object [], text)
          | _ => (readEntries? fuel text).map fun (entries, rest) => (.object entries, rest)
      | '"' :: text => (readBody? text).map fun (body, rest) => (.string body, rest)
      | text =>
          match Text.dropStart? ['n', 'u', 'l', 'l'] text with
          | some rest => some (.null, rest)
          | none =>
              match Text.dropStart? ['t', 'r', 'u', 'e'] text with
              | some rest => some (.bool true, rest)
              | none =>
                  match Text.dropStart? ['f', 'a', 'l', 's', 'e'] text with
                  | some rest => some (.bool false, rest)
                  | none => (readNumber? text).map fun (written, rest) => (.number written, rest)

def readItems? : (fuel : Nat) → List Char → Option (List Raw × List Char)
  | 0, _ => none
  | fuel + 1, text => do
      let (item, text) ← readValue? fuel text
      match skipSpace text with
      | ']' :: text => some ([item], text)
      | ',' :: text =>
          let (items, rest) ← readItems? fuel text
          some (item :: items, rest)
      | _ => none

def readEntries? : (fuel : Nat) → List Char → Option (List (List Char × Raw) × List Char)
  | 0, _ => none
  | fuel + 1, text => do
      let (key, text) ← readKey? text
      let (value, text) ← readValue? fuel text
      match skipSpace text with
      | '\x7d' :: text => some ([(key, value)], text)
      | ',' :: text =>
          let (entries, rest) ← readEntries? fuel text
          some ((key, value) :: entries, rest)
      | _ => none

end

/-- The shape of a whole text. A value takes at most two calls for each of its characters, so the
fuel never runs out. -/
def read? (text : List Char) : Option Raw :=
  match readValue? (2 * text.length + 2) text with
  | some (value, rest) => if (skipSpace rest).isEmpty then some value else none
  | none => none

end Raw

end Stencil.Json
