import Mathlib.Data.List.Infix
import Stencil.Expr.Grammar

/-!
The grammar of expressions, apart from the parser: which words spell which expression. Operators of
a level take operands of the level below and associate to the left; parentheses leave no node.
-/

namespace Stencil

def UnaryOp.symbol : UnaryOp → Symbol
  | .not => .bang
  | .negate => .minus
  | .plus => .plus

theorem UnaryOp.ofSymbol?_eq_some_iff {mark : Symbol} {operator : UnaryOp} :
    ofSymbol? mark = some operator ↔ operator.symbol = mark := by
  cases mark <;> cases operator <;> simp [ofSymbol?, symbol]

theorem BinaryOp.symbol_injective {operator other : BinaryOp}
    (same : operator.symbol = other.symbol) : operator = other := by
  cases operator <;> cases other <;> first | rfl | cases same

theorem BinaryOp.ofSymbol?_eq_some_iff {level : Nat} {mark : Symbol} {operator : BinaryOp} :
    ofSymbol? level mark = some operator ↔ operator.level = level ∧ operator.symbol = mark := by
  constructor
  · intro found
    simpa using List.find?_some found
  · rintro ⟨rfl, rfl⟩
    cases operator <;> rfl

namespace Expr

inductive Member : Lexeme → String → Prop
  | name (written : String) : Member (.name written) written
  | keyword (word : Keyword) : Member (.keyword word) word.text

inductive Key : Lexeme → String → Prop
  | name (written : String) : Key (.name written) written
  | text (content : String) : Key (.text content) content
  | number (value : Float) : Key (.number value) (numberText value)

mutual

inductive Conditional : List Lexeme → Expr → Prop
  | plain {words : List Lexeme} {whole : Expr} :
      Binary 6 words whole → Conditional words whole
  | choice {conditionWords consequentWords alternativeWords : List Lexeme}
      {condition consequent alternative : Expr} :
      Binary 6 conditionWords condition → Conditional consequentWords consequent →
      Conditional alternativeWords alternative →
      Conditional
        (conditionWords ++ .symbol .question ::
          (consequentWords ++ .symbol .colon :: alternativeWords))
        (.conditional condition consequent alternative)

/-- Operands and operators up to a level; below the first level stand prefix operators. -/
inductive Binary : Nat → List Lexeme → Expr → Prop
  | unary {words : List Lexeme} {whole : Expr} : Unary words whole → Binary 0 words whole
  | operand {level : Nat} {words : List Lexeme} {whole : Expr} :
      Binary level words whole → Binary (level + 1) words whole
  | operation {level : Nat} {leftWords rightWords : List Lexeme} {left right : Expr}
      (operator : BinaryOp) : operator.level = level + 1 →
      Binary (level + 1) leftWords left → Binary level rightWords right →
      Binary (level + 1) (leftWords ++ .symbol operator.symbol :: rightWords)
        (.binary operator left right)

inductive Unary : List Lexeme → Expr → Prop
  | postfixed {words : List Lexeme} {whole : Expr} : Postfix words whole → Unary words whole
  | operation {words : List Lexeme} {operand : Expr} (operator : UnaryOp) :
      Unary words operand →
      Unary (.symbol operator.symbol :: words) (.unary operator operand)

inductive Postfix : List Lexeme → Expr → Prop
  | primary {words : List Lexeme} {whole : Expr} : Primary words whole → Postfix words whole
  | member {words : List Lexeme} {subject : Expr} {word : Lexeme} {name : String} :
      Postfix words subject → Member word name →
      Postfix (words ++ [.symbol .dot, word]) (.attribute subject name)
  | index {words positionWords : List Lexeme} {subject position : Expr} :
      Postfix words subject → Conditional positionWords position →
      Postfix (words ++ .symbol .openBracket :: (positionWords ++ [.symbol .closeBracket]))
        (.index subject position)
  | call {words argumentWords : List Lexeme} {callee : Expr} {arguments : List Expr} :
      Postfix words callee → Items argumentWords arguments →
      Postfix (words ++ .symbol .openParen :: (argumentWords ++ [.symbol .closeParen]))
        (.call callee arguments)

inductive Primary : List Lexeme → Expr → Prop
  | number (value : Float) : Primary [.number value] (.number value)
  | text (content : String) : Primary [.text content] (.text content)
  | trueWord : Primary [.keyword .trueWord] (.bool true)
  | falseWord : Primary [.keyword .falseWord] (.bool false)
  | nullWord : Primary [.keyword .nullWord] .null
  | undefinedWord : Primary [.keyword .undefinedWord] .null
  | name (written : String) : Primary [.name written] (.var written)
  | parentheses {words : List Lexeme} {whole : Expr} : Conditional words whole →
      Primary (.symbol .openParen :: (words ++ [.symbol .closeParen])) whole
  | array {words : List Lexeme} {items : List Expr} : Items words items →
      Primary (.symbol .openBracket :: (words ++ [.symbol .closeBracket])) (.array items)
  | object {words : List Lexeme} {entries : List (String × Expr)} : Entries words entries →
      Primary (.symbol .openBrace :: (words ++ [.symbol .closeBrace])) (.object entries)

inductive Items : List Lexeme → List Expr → Prop
  | none : Items [] []
  | last {words : List Lexeme} {item : Expr} : Conditional words item → Items words [item]
  | more {words others : List Lexeme} {item : Expr} {items : List Expr} :
      Conditional words item → Items others items →
      Items (words ++ .symbol .comma :: others) (item :: items)

inductive Entries : List Lexeme → List (String × Expr) → Prop
  | none : Entries [] []
  | last {word : Lexeme} {key : String} {words : List Lexeme} {value : Expr} :
      Key word key → Conditional words value →
      Entries (word :: .symbol .colon :: words) [(key, value)]
  | more {word : Lexeme} {key : String} {words others : List Lexeme} {value : Expr}
      {entries : List (String × Expr)} :
      Key word key → Conditional words value → Entries others entries →
      Entries (word :: .symbol .colon :: (words ++ .symbol .comma :: others))
        ((key, value) :: entries)

end

theorem Postfix.conditional {words : List Lexeme} {whole : Expr} (derived : Postfix words whole) :
    Conditional words whole :=
  .plain (.operand (.operand (.operand (.operand (.operand (.operand
    (.unary (.postfixed derived))))))))

def Begins (marks : List Symbol) (words : List Lexeme) : Prop :=
  ∃ word rest, words = word :: rest ∧ ∀ mark, word = .symbol mark → mark ∈ marks

def operandMarks : List Symbol := [.openParen, .openBracket, .openBrace]

def prefixMarks : List Symbol := [.bang, .minus, .plus]

theorem Begins.append {marks : List Symbol} {words : List Lexeme} (begins : Begins marks words)
    (others : List Lexeme) : Begins marks (words ++ others) := by
  obtain ⟨word, rest, rfl, leads⟩ := begins
  exact ⟨word, rest ++ others, rfl, leads⟩

theorem Primary.begins {words : List Lexeme} {whole : Expr} (derived : Primary words whole) :
    Begins operandMarks words := by
  cases derived <;> exact ⟨_, _, rfl, by simp [operandMarks]⟩

theorem Postfix.begins {words : List Lexeme} {whole : Expr} :
    Postfix words whole → Begins operandMarks words
  | .primary derived => derived.begins
  | .member derived _ => derived.begins.append _
  | .index derived _ => derived.begins.append _
  | .call derived _ => derived.begins.append _

theorem Unary.begins {words : List Lexeme} {whole : Expr} (derived : Unary words whole) :
    Begins (operandMarks ++ prefixMarks) words := by
  cases derived with
  | postfixed derived =>
      obtain ⟨word, rest, same, leads⟩ := derived.begins
      exact ⟨word, rest, same, fun mark symbol => List.mem_append_left _ (leads mark symbol)⟩
  | operation operator _ =>
      refine ⟨_, _, rfl, ?_⟩
      cases operator <;> simp [operandMarks, prefixMarks, UnaryOp.symbol]

theorem Binary.begins {level : Nat} {words : List Lexeme} {whole : Expr} :
    Binary level words whole → Begins (operandMarks ++ prefixMarks) words
  | .unary derived => derived.begins
  | .operand derived => derived.begins
  | .operation _ _ derived _ => derived.begins.append _

theorem Conditional.begins {words : List Lexeme} {whole : Expr} :
    Conditional words whole → Begins (operandMarks ++ prefixMarks) words
  | .plain derived => derived.begins
  | .choice derived _ _ => derived.begins.append _

end Expr

end Stencil
