import Stencil.Proofs.Expr.Reading

/-!
The parser of expressions with a counter of the levels that are open. Every operator, suffix and
bracket raises the counter by one where it is met, and is refused above the limit; the levels of a
chain of operators or suffixes are given back together, behind the last one. The values of the counter
are kept, so that every one of them can be compared with the limit and with the first one.
-/

namespace Stencil

/-- A counter, and the values that it was moved to, the last one first. It counts below zero where
more is given back than was taken. -/
structure Counter where
  depth : Int
  trail : List Int

namespace Counter

def start (depth : Nat) : Counter := ⟨depth, []⟩

def moveTo (counter : Counter) (depth : Int) : Counter := ⟨depth, depth :: counter.trail⟩

end Counter

abbrev Counting := EStateM SyntaxFault Counter

namespace Counting

variable {α : Type}

def descend : Counting Unit := fun counter =>
  let deeper := counter.moveTo (counter.depth + 1)
  if deeper.depth ≤ Expr.maxDepth then .ok () deeper else .error .tooDeep deeper

def ascend (levels : Nat) : Counting Unit := fun counter =>
  .ok () (counter.moveTo (counter.depth - levels))

def ofExcept (result : Except SyntaxFault α) : Counting α := fun counter =>
  match result with
  | .ok value => .ok value counter
  | .error fault => .error fault counter

def outcome (run : Counting α) (depth : Nat) : Except SyntaxFault α :=
  match run (.start depth) with
  | .ok value _ => .ok value
  | .error fault _ => .error fault

def counter (run : Counting α) (depth : Nat) : Counter :=
  match run (.start depth) with
  | .ok _ counter => counter
  | .error _ counter => counter

end Counting

namespace Expr

mutual

def countConditional (words : List Lexeme) : Counting (Parsed Expr words.length) := do
  let ⟨condition, rest, within⟩ ← countBinary 6 words
  match rest, within with
  | .symbol .question :: rest, within => do
      Counting.descend
      let ⟨consequent, rest₁, within₁⟩ ← countConditional rest
      let ⟨_, rest₂, within₂⟩ ← Counting.ofExcept (takeSymbol .colon rest₁)
      let ⟨alternative, rest₃, within₃⟩ ← countConditional rest₂
      Counting.ascend 1
      return ⟨.conditional condition consequent alternative, rest₃,
        by simp only [List.length_cons] at within; omega⟩
  | rest, within => return ⟨condition, rest, within⟩
termination_by (words.length, 10)
decreasing_by
  · decreasing_tactic
  all_goals
    simp only [List.length_cons] at within
    decreasing_tactic

def countBinary (level : Nat) (words : List Lexeme) : Counting (Parsed Expr words.length) :=
  match level with
  | 0 => countUnary words
  | level + 1 => do
      let ⟨first, rest, within⟩ ← countBinary level words
      let ⟨whole, rest₁, within₁⟩ ← countChain (level + 1) 0 first rest
      return ⟨whole, rest₁, by omega⟩
termination_by (words.length, level + 3)

def countChain (level taken : Nat) (left : Expr) (words : List Lexeme) :
    Counting (Parsed Expr (words.length + 1)) :=
  match words with
  | .symbol mark :: rest =>
      match BinaryOp.ofSymbol? level mark with
      | none => do
          Counting.ascend taken
          return ⟨left, .symbol mark :: rest, by simp⟩
      | some operator => do
          Counting.descend
          let ⟨right, rest₁, within₁⟩ ← countBinary (level - 1) rest
          let ⟨whole, rest₂, within₂⟩ ←
            countChain level (taken + 1) (.binary operator left right) rest₁
          return ⟨whole, rest₂, by simp only [List.length_cons]; omega⟩
  | words => do
      Counting.ascend taken
      return ⟨left, words, by omega⟩
termination_by (words.length, 0)

def countUnary (words : List Lexeme) : Counting (Parsed Expr words.length) :=
  match words with
  | .symbol mark :: rest =>
      match UnaryOp.ofSymbol? mark with
      | none => countPostfix (.symbol mark :: rest)
      | some operator => do
          Counting.descend
          let ⟨operand, rest₁, within₁⟩ ← countUnary rest
          Counting.ascend 1
          return ⟨.unary operator operand, rest₁, by simp only [List.length_cons]; omega⟩
  | words => countPostfix words
termination_by (words.length, 2)

def countPostfix (words : List Lexeme) : Counting (Parsed Expr words.length) := do
  let ⟨subject, rest, within⟩ ← countPrimary words
  let ⟨whole, rest₁, within₁⟩ ← countSuffixes 0 subject rest
  return ⟨whole, rest₁, by omega⟩
termination_by (words.length, 1)

def countSuffixes (taken : Nat) (subject : Expr) (words : List Lexeme) :
    Counting (Parsed Expr (words.length + 1)) :=
  match words with
  | .symbol .dot :: rest => do
      Counting.descend
      let ⟨member, rest₁, within₁⟩ ← Counting.ofExcept (takeMember rest)
      let ⟨whole, rest₂, within₂⟩ ← countSuffixes (taken + 1) (.attribute subject member) rest₁
      return ⟨whole, rest₂, by simp only [List.length_cons]; omega⟩
  | .symbol .openBracket :: rest => do
      Counting.descend
      let ⟨position, rest₁, within₁⟩ ← countConditional rest
      let ⟨_, rest₂, within₂⟩ ← Counting.ofExcept (takeSymbol .closeBracket rest₁)
      let ⟨whole, rest₃, within₃⟩ ← countSuffixes (taken + 1) (.index subject position) rest₂
      return ⟨whole, rest₃, by simp only [List.length_cons]; omega⟩
  | .symbol .openParen :: rest => do
      Counting.descend
      let ⟨arguments, rest₁, within₁⟩ ← countList .closeParen rest
      let ⟨whole, rest₂, within₂⟩ ← countSuffixes (taken + 1) (.call subject arguments) rest₁
      return ⟨whole, rest₂, by simp only [List.length_cons]; omega⟩
  | words => do
      Counting.ascend taken
      return ⟨subject, words, by omega⟩
termination_by (words.length, 0)

def countPrimary (words : List Lexeme) : Counting (Parsed Expr words.length) :=
  match words with
  | .number value :: rest => return ⟨.number value, rest, by simp⟩
  | .text content :: rest => return ⟨.text content, rest, by simp⟩
  | .keyword .trueWord :: rest => return ⟨.bool true, rest, by simp⟩
  | .keyword .falseWord :: rest => return ⟨.bool false, rest, by simp⟩
  | .keyword .nullWord :: rest => return ⟨.null, rest, by simp⟩
  | .keyword .undefinedWord :: rest => return ⟨.null, rest, by simp⟩
  | .name written :: rest => return ⟨.var written, rest, by simp⟩
  | .symbol .openParen :: rest => do
      Counting.descend
      let ⟨inner, rest₁, within₁⟩ ← countConditional rest
      let ⟨_, rest₂, within₂⟩ ← Counting.ofExcept (takeSymbol .closeParen rest₁)
      Counting.ascend 1
      return ⟨inner, rest₂, Nat.lt_succ_of_lt (Nat.lt_trans within₂ within₁)⟩
  | .symbol .openBracket :: rest => do
      let ⟨items, rest₁, within₁⟩ ← countList .closeBracket rest
      return ⟨.array items, rest₁, Nat.lt_succ_of_lt within₁⟩
  | .symbol .openBrace :: rest => do
      let ⟨whole, rest₁, within₁⟩ ← countObject rest
      return ⟨whole, rest₁, Nat.lt_succ_of_lt within₁⟩
  | words => Counting.ofExcept (.error (.atWord words))
termination_by (words.length, 0)

def countList (close : Symbol) (words : List Lexeme) :
    Counting (Parsed (List Expr) words.length) := do
  Counting.descend
  let items ← countItems close words
  Counting.ascend 1
  return items
termination_by (words.length, 12)

def countItems (close : Symbol) (words : List Lexeme) :
    Counting (Parsed (List Expr) words.length) :=
  match takeSymbol close words with
  | .ok ⟨_, rest, within⟩ => return ⟨[], rest, within⟩
  | .error _ => do
      let ⟨item, rest, within⟩ ← countConditional words
      match takeSymbol .comma rest with
      | .ok ⟨_, rest₁, within₁⟩ =>
          let ⟨items, rest₂, within₂⟩ ← countItems close rest₁
          return ⟨item :: items, rest₂, by omega⟩
      | .error _ =>
          let ⟨_, rest₁, within₁⟩ ← Counting.ofExcept (takeSymbol close rest)
          return ⟨[item], rest₁, by omega⟩
termination_by (words.length, 11)

def countObject (words : List Lexeme) : Counting (Parsed Expr words.length) := do
  Counting.descend
  let ⟨entries, rest, within⟩ ← countEntries words
  Counting.ascend 1
  return ⟨.object entries, rest, within⟩
termination_by (words.length, 12)

def countEntries (words : List Lexeme) :
    Counting (Parsed (List (String × Expr)) words.length) :=
  match takeSymbol .closeBrace words with
  | .ok ⟨_, rest, within⟩ => return ⟨[], rest, within⟩
  | .error _ => do
      let ⟨key, rest, within⟩ ← Counting.ofExcept (takeKey words)
      let ⟨_, rest₁, within₁⟩ ← Counting.ofExcept (takeSymbol .colon rest)
      let ⟨value, rest₂, within₂⟩ ← countConditional rest₁
      have behind := Nat.lt_trans within₂ (Nat.lt_trans within₁ within)
      match takeSymbol .comma rest₂ with
      | .ok ⟨_, rest₃, within₃⟩ =>
          let ⟨entries, rest₄, within₄⟩ ← countEntries rest₃
          return ⟨(key, value) :: entries, rest₄, Nat.lt_trans within₄ (Nat.lt_trans within₃ behind)⟩
      | .error _ =>
          let ⟨_, rest₃, within₃⟩ ← Counting.ofExcept (takeSymbol .closeBrace rest₂)
          return ⟨[(key, value)], rest₃, Nat.lt_trans within₃ behind⟩
termination_by (words.length, 11)

end

end Expr

end Stencil
