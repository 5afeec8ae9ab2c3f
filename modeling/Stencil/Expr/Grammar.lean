import Stencil.Expr.Basic
import Stencil.Expr.Lexer
import Stencil.NumberText

/-!
Expressions from words. The grammar has a conditional level, six levels of left-associative
operators, prefix operators, and suffixes for members, indices and calls. Every operator, suffix
and bracket takes one of a fixed number of nesting levels while what it contains is read, and gives
it back afterwards; an expression that needs more levels is refused.
-/

namespace Stencil

inductive SyntaxFault where
  | invalidToken
  | unexpected (word : Lexeme)
  | unexpectedEnd
  | tooDeep

namespace SyntaxFault

def message : SyntaxFault → String
  | .invalidToken => "Invalid or unexpected token"
  | .unexpected word => "Unexpected token '" ++ word.spelling ++ "'"
  | .unexpectedEnd => "Unexpected end of input"
  | .tooDeep => "expression nested too deeply"

def atWord : List Lexeme → SyntaxFault
  | [] => .unexpectedEnd
  | word :: _ => .unexpected word

end SyntaxFault

/-- What was read from the front of some words, and the fewer than `bound` words that are left. -/
structure Parsed (α : Type) (bound : Nat) where
  value : α
  rest : List Lexeme
  within : rest.length < bound

namespace Expr

def takeSymbol (symbol : Symbol) (words : List Lexeme) :
    Except SyntaxFault (Parsed Unit words.length) :=
  match words with
  | .symbol mark :: rest =>
      if mark = symbol then .ok ⟨(), rest, by simp⟩ else .error (.unexpected (.symbol mark))
  | words => .error (.atWord words)

def takeMember (words : List Lexeme) : Except SyntaxFault (Parsed String words.length) :=
  match words with
  | .name written :: rest => .ok ⟨written, rest, by simp⟩
  | .keyword word :: rest => .ok ⟨word.text, rest, by simp⟩
  | words => .error (.atWord words)

def takeKey (words : List Lexeme) : Except SyntaxFault (Parsed String words.length) :=
  match words with
  | .name written :: rest => .ok ⟨written, rest, by simp⟩
  | .text content :: rest => .ok ⟨content, rest, by simp⟩
  | .number value :: rest => .ok ⟨numberText value, rest, by simp⟩
  | words => .error (.atWord words)

mutual

def parseConditional (levels : Nat) (words : List Lexeme) :
    Except SyntaxFault (Parsed Expr words.length) := do
  let ⟨condition, rest, within⟩ ← parseBinary 6 levels words
  match rest, within with
  | .symbol .question :: rest, within =>
      match levels with
      | 0 => .error .tooDeep
      | levels + 1 =>
          let ⟨consequent, rest₁, within₁⟩ ← parseConditional levels rest
          let ⟨_, rest₂, within₂⟩ ← takeSymbol .colon rest₁
          let ⟨alternative, rest₃, within₃⟩ ← parseConditional levels rest₂
          return ⟨.conditional condition consequent alternative, rest₃,
            by simp only [List.length_cons] at within; omega⟩
  | rest, within => return ⟨condition, rest, within⟩
termination_by (levels, 10, 0)

def parseBinary (level levels : Nat) (words : List Lexeme) :
    Except SyntaxFault (Parsed Expr words.length) :=
  match level with
  | 0 => parseUnary levels words
  | level + 1 => do
      let ⟨first, rest, within⟩ ← parseBinary level levels words
      let ⟨whole, rest₁, within₁⟩ ← parseChain (level + 1) levels first rest
      return ⟨whole, rest₁, by omega⟩
termination_by (levels, level + 3, 0)

def parseChain (level levels : Nat) (left : Expr) (words : List Lexeme) :
    Except SyntaxFault (Parsed Expr (words.length + 1)) :=
  match words with
  | .symbol mark :: rest =>
      match BinaryOp.ofSymbol? level mark with
      | none => .ok ⟨left, .symbol mark :: rest, by simp⟩
      | some operator =>
          match levels with
          | 0 => .error .tooDeep
          | levels + 1 => do
              let ⟨right, rest₁, within₁⟩ ← parseBinary (level - 1) levels rest
              let ⟨whole, rest₂, within₂⟩ ←
                parseChain level levels (.binary operator left right) rest₁
              return ⟨whole, rest₂, by simp only [List.length_cons]; omega⟩
  | words => .ok ⟨left, words, by omega⟩
termination_by (levels, 0, 0)

def parseUnary (levels : Nat) (words : List Lexeme) :
    Except SyntaxFault (Parsed Expr words.length) :=
  match words with
  | .symbol mark :: rest =>
      match UnaryOp.ofSymbol? mark with
      | none => parsePostfix levels (.symbol mark :: rest)
      | some operator =>
          match levels with
          | 0 => .error .tooDeep
          | levels + 1 => do
              let ⟨operand, rest₁, within₁⟩ ← parseUnary levels rest
              return ⟨.unary operator operand, rest₁, by simp only [List.length_cons]; omega⟩
  | words => parsePostfix levels words
termination_by (levels, 2, 0)

def parsePostfix (levels : Nat) (words : List Lexeme) :
    Except SyntaxFault (Parsed Expr words.length) := do
  let ⟨subject, rest, within⟩ ← parsePrimary levels words
  let ⟨whole, rest₁, within₁⟩ ← parseSuffixes levels subject rest
  return ⟨whole, rest₁, by omega⟩
termination_by (levels, 1, 1)

def parseSuffixes (levels : Nat) (subject : Expr) (words : List Lexeme) :
    Except SyntaxFault (Parsed Expr (words.length + 1)) :=
  match words with
  | .symbol .dot :: rest =>
      match levels with
      | 0 => .error .tooDeep
      | levels + 1 => do
          let ⟨member, rest₁, within₁⟩ ← takeMember rest
          let ⟨whole, rest₂, within₂⟩ ← parseSuffixes levels (.attribute subject member) rest₁
          return ⟨whole, rest₂, by simp only [List.length_cons]; omega⟩
  | .symbol .openBracket :: rest =>
      match levels with
      | 0 => .error .tooDeep
      | levels + 1 => do
          let ⟨position, rest₁, within₁⟩ ← parseConditional levels rest
          let ⟨_, rest₂, within₂⟩ ← takeSymbol .closeBracket rest₁
          let ⟨whole, rest₃, within₃⟩ ← parseSuffixes levels (.index subject position) rest₂
          return ⟨whole, rest₃, by simp only [List.length_cons]; omega⟩
  | .symbol .openParen :: rest =>
      match levels with
      | 0 => .error .tooDeep
      | levels + 1 => do
          let ⟨arguments, rest₁, within₁⟩ ← parseList .closeParen levels rest
          let ⟨whole, rest₂, within₂⟩ ← parseSuffixes levels (.call subject arguments) rest₁
          return ⟨whole, rest₂, by simp only [List.length_cons]; omega⟩
  | words => .ok ⟨subject, words, by omega⟩
termination_by (levels, 0, 0)

def parsePrimary (levels : Nat) (words : List Lexeme) :
    Except SyntaxFault (Parsed Expr words.length) :=
  match words with
  | .number value :: rest => .ok ⟨.number value, rest, by simp⟩
  | .text content :: rest => .ok ⟨.text content, rest, by simp⟩
  | .keyword .trueWord :: rest => .ok ⟨.bool true, rest, by simp⟩
  | .keyword .falseWord :: rest => .ok ⟨.bool false, rest, by simp⟩
  | .keyword .nullWord :: rest => .ok ⟨.null, rest, by simp⟩
  | .keyword .undefinedWord :: rest => .ok ⟨.null, rest, by simp⟩
  | .name written :: rest => .ok ⟨.var written, rest, by simp⟩
  | .symbol .openParen :: rest =>
      match levels with
      | 0 => .error .tooDeep
      | levels + 1 => do
          let ⟨inner, rest₁, within₁⟩ ← parseConditional levels rest
          let ⟨_, rest₂, within₂⟩ ← takeSymbol .closeParen rest₁
          return ⟨inner, rest₂, by simp only [List.length_cons]; omega⟩
  | .symbol .openBracket :: rest => do
      let ⟨items, rest₁, within₁⟩ ← parseList .closeBracket levels rest
      return ⟨.array items, rest₁, by simp only [List.length_cons]; omega⟩
  | .symbol .openBrace :: rest =>
      match levels with
      | 0 => .error .tooDeep
      | levels + 1 => do
          let ⟨entries, rest₁, within₁⟩ ← parseEntries levels rest
          return ⟨.object entries, rest₁, by simp only [List.length_cons]; omega⟩
  | words => .error (.atWord words)
termination_by (levels, 1, 0)

def parseList (close : Symbol) (levels : Nat) (words : List Lexeme) :
    Except SyntaxFault (Parsed (List Expr) words.length) :=
  match levels with
  | 0 => .error .tooDeep
  | levels + 1 => parseItems close levels words
termination_by (levels, 0, 0)

def parseItems (close : Symbol) (levels : Nat) (words : List Lexeme) :
    Except SyntaxFault (Parsed (List Expr) words.length) :=
  match takeSymbol close words with
  | .ok ⟨_, rest, within⟩ => .ok ⟨[], rest, within⟩
  | .error _ => do
      let ⟨item, rest, within⟩ ← parseConditional levels words
      match takeSymbol .comma rest with
      | .ok ⟨_, rest₁, within₁⟩ =>
          let ⟨items, rest₂, within₂⟩ ← parseItems close levels rest₁
          return ⟨item :: items, rest₂, by omega⟩
      | .error _ =>
          let ⟨_, rest₁, within₁⟩ ← takeSymbol close rest
          return ⟨[item], rest₁, by omega⟩
termination_by (levels, 11, words.length)

def parseEntries (levels : Nat) (words : List Lexeme) :
    Except SyntaxFault (Parsed (List (String × Expr)) words.length) :=
  match takeSymbol .closeBrace words with
  | .ok ⟨_, rest, within⟩ => .ok ⟨[], rest, within⟩
  | .error _ => do
      let ⟨key, rest, within⟩ ← takeKey words
      let ⟨_, rest₁, within₁⟩ ← takeSymbol .colon rest
      let ⟨value, rest₂, within₂⟩ ← parseConditional levels rest₁
      match takeSymbol .comma rest₂ with
      | .ok ⟨_, rest₃, within₃⟩ =>
          let ⟨entries, rest₄, within₄⟩ ← parseEntries levels rest₃
          return ⟨(key, value) :: entries, rest₄, by omega⟩
      | .error _ =>
          let ⟨_, rest₃, within₃⟩ ← takeSymbol .closeBrace rest₂
          return ⟨[(key, value)], rest₃, by omega⟩
termination_by (levels, 11, words.length)

end

/-- How many levels of operators, brackets and suffixes may be open at once. -/
def maxDepth : Nat := 64

def ofWords (words : List Lexeme) : Except SyntaxFault Expr := do
  let ⟨whole, rest, _⟩ ← parseConditional maxDepth words
  match rest with
  | [] => return whole
  | word :: _ => .error (.unexpected word)

def compile (source : String) : Except SyntaxFault Expr :=
  match Lexeme.readAll? source.toList with
  | none => .error .invalidToken
  | some words => ofWords words

end Expr

end Stencil
