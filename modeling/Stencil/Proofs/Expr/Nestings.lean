import Stencil.Proofs.Expr.Height
import Stencil.Proofs.Expr.Soundness

/-!
Every node of an expression is written with an operator, a bracket, a dot or a question mark of its
own, so that an expression is never higher than the number of these in its text.
-/

namespace Stencil

def Symbol.nests : Symbol → Bool
  | .comma | .colon | .closeParen | .closeBracket | .closeBrace => false
  | _ => true

def Lexeme.nests : Lexeme → Bool
  | .symbol mark => mark.nests
  | _ => false

namespace Expr

def nestingsOf (words : List Lexeme) : Nat := words.countP Lexeme.nests

def nestings (source : String) : Nat :=
  match Lexeme.readAll? source.toList with
  | none => 0
  | some words => nestingsOf words

@[simp] theorem nestingsOf_append (words others : List Lexeme) :
    nestingsOf (words ++ others) = nestingsOf words + nestingsOf others :=
  List.countP_append

@[simp] theorem nestingsOf_symbol (mark : Symbol) (words : List Lexeme) :
    nestingsOf (.symbol mark :: words) = nestingsOf words + mark.nests.toNat := by
  rw [nestingsOf, List.countP_cons, Lexeme.nests]
  cases mark.nests <;> rfl

theorem nestingsOf_tail_le (word : Lexeme) (words : List Lexeme) :
    nestingsOf words ≤ nestingsOf (word :: words) := by
  rw [nestingsOf, nestingsOf, List.countP_cons]
  exact Nat.le_add_right _ _

theorem nests_binary (operator : BinaryOp) : operator.symbol.nests = true := by
  cases operator <;> rfl

theorem nests_unary (operator : UnaryOp) : operator.symbol.nests = true := by
  cases operator <;> rfl

mutual

theorem Conditional.height_le {words : List Lexeme} {whole : Expr} :
    Conditional words whole → height whole ≤ nestingsOf words
  | .plain derived => derived.height_le
  | .choice condition consequent alternative => by
      have first := condition.height_le
      have second := consequent.height_le
      have third := alternative.height_le
      simp only [height, nestingsOf_append, nestingsOf_symbol, Symbol.nests, Bool.toNat_true]
      omega

theorem Binary.height_le {level : Nat} {words : List Lexeme} {whole : Expr} :
    Binary level words whole → height whole ≤ nestingsOf words
  | .unary derived => derived.height_le
  | .operand derived => derived.height_le
  | .operation operator _ left right => by
      have first := left.height_le
      have second := right.height_le
      simp only [height, nestingsOf_append, nestingsOf_symbol, nests_binary, Bool.toNat_true]
      omega

theorem Unary.height_le {words : List Lexeme} {whole : Expr} :
    Unary words whole → height whole ≤ nestingsOf words
  | .postfixed derived => derived.height_le
  | .operation operator operand => by
      have inner := operand.height_le
      simp only [height, nestingsOf_symbol, nests_unary, Bool.toNat_true]
      omega

theorem Postfix.height_le {words : List Lexeme} {whole : Expr} :
    Postfix words whole → height whole ≤ nestingsOf words
  | .primary derived => derived.height_le
  | .member subject _ => by
      have inner := subject.height_le
      simp only [height, nestingsOf_append, nestingsOf_symbol, Symbol.nests, Bool.toNat_true]
      omega
  | .index subject position => by
      have inner := subject.height_le
      have place := position.height_le
      simp only [height, nestingsOf_append, nestingsOf_symbol, Symbol.nests, Bool.toNat_true]
      omega
  | .call callee arguments => by
      have inner := callee.height_le
      have given := arguments.height_le
      simp only [height, nestingsOf_append, nestingsOf_symbol, Symbol.nests, Bool.toNat_true]
      omega

theorem Primary.height_le {words : List Lexeme} {whole : Expr} :
    Primary words whole → height whole ≤ nestingsOf words
  | .number _ | .text _ | .trueWord | .falseWord | .nullWord | .undefinedWord | .name _ =>
      Nat.zero_le _
  | .parentheses derived => by
      have inner := derived.height_le
      simp only [nestingsOf_append, nestingsOf_symbol]
      omega
  | .array items => by
      have inner := items.height_le
      simp only [height, nestingsOf_append, nestingsOf_symbol, Symbol.nests, Bool.toNat_true]
      omega
  | .object entries => by
      have inner := entries.height_le
      simp only [height, nestingsOf_append, nestingsOf_symbol, Symbol.nests, Bool.toNat_true]
      omega

theorem Items.height_le {words : List Lexeme} {items : List Expr} :
    Items words items → heightOfAll items ≤ nestingsOf words
  | .none => Nat.le_refl _
  | .last item => by
      have first := item.height_le
      simp only [heightOfAll]
      omega
  | .more item items => by
      have first := item.height_le
      have later := items.height_le
      simp only [heightOfAll, nestingsOf_append, nestingsOf_symbol]
      omega

theorem Entries.height_le {words : List Lexeme} {entries : List (String × Expr)} :
    Entries words entries → heightOfEntries entries ≤ nestingsOf words
  | .none => Nat.le_refl _
  | .last _ value => by
      have first := value.height_le
      refine Nat.le_trans ?_ (nestingsOf_tail_le _ _)
      simp only [heightOfEntries, nestingsOf_symbol]
      omega
  | .more _ value entries => by
      have first := value.height_le
      have later := entries.height_le
      refine Nat.le_trans ?_ (nestingsOf_tail_le _ _)
      simp only [heightOfEntries, nestingsOf_append, nestingsOf_symbol]
      omega

end

theorem height_le_nestings {source : String} {whole : Expr} (compiled : compile source = .ok whole) :
    whole.height ≤ nestings source := by
  cases read : Lexeme.readAll? source.toList with
  | none =>
      rw [compile, read] at compiled
      cases compiled
  | some words =>
      rw [compile, read] at compiled
      rw [nestings, read]
      exact (conditional_of_ofWords compiled).height_le

end Expr

end Stencil
