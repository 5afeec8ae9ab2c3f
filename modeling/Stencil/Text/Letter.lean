import Stencil.Text.LetterTable
import Stencil.Text.Ranges

/-!
Letters, decimal digits and the characters of names. A name starts with a letter, `_` or `$` and
goes on with letters, numbers of any script, `_` or `$`.
-/

namespace Stencil.Text

def isLetter (character : Char) : Bool :=
  if character.toNat < 0x80 then character.isAlpha
  else inRanges character.toNat letterRanges

def isNumeral (character : Char) : Bool :=
  if character.toNat < 0x80 then character.isDigit
  else inRanges character.toNat numeralRanges

def isNameStart (character : Char) : Bool :=
  isLetter character || character == '_' || character == '$'

def isNamePart (character : Char) : Bool :=
  isLetter character || isNumeral character || character == '_' || character == '$'

def isName : List Char → Bool
  | [] => false
  | first :: rest => isNameStart first && rest.all isNamePart

theorem isNamePart_of_isNameStart {character : Char} (start : isNameStart character = true) :
    isNamePart character = true := by
  simp only [isNameStart, isNamePart, Bool.or_eq_true] at start ⊢
  rcases start with (letter | underscore) | dollar
  · exact .inl (.inl (.inl letter))
  · exact .inl (.inr underscore)
  · exact .inr dollar

end Stencil.Text
