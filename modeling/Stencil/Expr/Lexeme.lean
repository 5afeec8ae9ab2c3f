import Stencil.Binary64.Layout

/-!
The words of the expression language: numbers, quoted texts, names, four keywords and the symbols,
with the spelling that messages use for each.
-/

namespace Stencil

inductive Symbol where
  | dot | comma | colon | question
  | openParen | closeParen | openBracket | closeBracket | openBrace | closeBrace
  | plus | minus | star | slash | percent | bang
  | equal | notEqual | same | notSame
  | less | lessEqual | greater | greaterEqual
  | both | either
  deriving DecidableEq, Repr

namespace Symbol

def chars : Symbol → List Char
  | .dot => ['.']
  | .comma => [',']
  | .colon => [':']
  | .question => ['?']
  | .openParen => ['(']
  | .closeParen => [')']
  | .openBracket => ['[']
  | .closeBracket => [']']
  | .openBrace => ['\x7b']
  | .closeBrace => ['\x7d']
  | .plus => ['+']
  | .minus => ['-']
  | .star => ['*']
  | .slash => ['/']
  | .percent => ['%']
  | .bang => ['!']
  | .equal => ['=', '=']
  | .notEqual => ['!', '=']
  | .same => ['=', '=', '=']
  | .notSame => ['!', '=', '=']
  | .less => ['<']
  | .lessEqual => ['<', '=']
  | .greater => ['>']
  | .greaterEqual => ['>', '=']
  | .both => ['&', '&']
  | .either => ['|', '|']

/-- Longer spellings come first, so that `===` is not read as `==` and a stray `=`. -/
def longestFirst : List Symbol := [
  .same, .notSame, .equal, .notEqual, .lessEqual, .greaterEqual, .both, .either,
  .dot, .comma, .colon, .question, .openParen, .closeParen, .openBracket, .closeBracket,
  .openBrace, .closeBrace, .plus, .minus, .star, .slash, .percent, .bang, .less, .greater]

end Symbol

inductive Keyword where
  | trueWord | falseWord | nullWord | undefinedWord
  deriving DecidableEq, Repr

namespace Keyword

def text : Keyword → String
  | .trueWord => "true"
  | .falseWord => "false"
  | .nullWord => "null"
  | .undefinedWord => "undefined"

def ofText? (text : String) : Option Keyword :=
  if text = "true" then some .trueWord
  else if text = "false" then some .falseWord
  else if text = "null" then some .nullWord
  else if text = "undefined" then some .undefinedWord
  else none

end Keyword

inductive Lexeme where
  | number (value : Float)
  | text (content : String)
  | name (written : String)
  | keyword (word : Keyword)
  | symbol (mark : Symbol)
  deriving DecidableEq

namespace Lexeme

def numberLayout : Binary64.Layout where
  positional _ := true
  integralTail := ""
  notANumber := "NaN"
  infinity := "inf"
  tie := .up

def spelling : Lexeme → String
  | .number value => numberLayout.text value
  | .text content => "'" ++ content ++ "'"
  | .name written => written
  | .keyword word => word.text
  | .symbol mark => String.ofList mark.chars

end Lexeme

end Stencil
