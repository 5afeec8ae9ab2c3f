import Stencil.Proofs.Expr.Derivation
import Stencil.Proofs.Expr.Reading

/-!
What the parser reads from the front of some words spells the expression that it returns. The
readers are followed one by one for a number of levels, with those for fewer levels given.
-/

namespace Stencil.Expr

def Takes {α : Type} (derives : List Lexeme → α → Prop)
    (reader : List Lexeme → Except SyntaxFault (α × List Lexeme)) : Prop :=
  ∀ words value rest, reader words = .ok (value, rest) →
    ∃ front, words = front ++ rest ∧ derives front value

structure Sound (levels : Nat) : Prop where
  conditional : Takes Conditional (readConditional levels)
  binary : ∀ level, Takes (Binary level) (readBinary level levels)
  chain : ∀ level before left, Binary (level + 1) before left →
    Takes (fun front => Binary (level + 1) (before ++ front)) (readChain (level + 1) levels left)
  unary : Takes Unary (readUnary levels)
  suffixes : ∀ before subject, Postfix before subject →
    Takes (fun front => Postfix (before ++ front)) (readSuffixes levels subject)
  items : ∀ close, Takes (fun front items => ∃ words,
    front = words ++ [.symbol close] ∧ Items words items) (readItems close levels)
  entries : Takes (fun front entries => ∃ words,
    front = words ++ [.symbol .closeBrace] ∧ Entries words entries) (readEntries levels)

theorem takes_member : Takes (fun front name => ∃ word, front = [word] ∧ Member word name)
    readMember := by
  intro words name rest read
  rw [readMember, takeMember.eq_def] at read
  split at read
  · cases read
    exact ⟨_, rfl, _, rfl, .name _⟩
  · cases read
    exact ⟨_, rfl, _, rfl, .keyword _⟩
  · cases read

theorem takes_key : Takes (fun front name => ∃ word, front = [word] ∧ Key word name) readKey := by
  intro words name rest read
  rw [readKey, takeKey.eq_def] at read
  split at read
  · cases read
    exact ⟨_, rfl, _, rfl, .name _⟩
  · cases read
    exact ⟨_, rfl, _, rfl, .text _⟩
  · cases read
    exact ⟨_, rfl, _, rfl, .number _⟩
  · cases read

section Step

variable {levels : Nat} (below : ∀ fewer < levels, Sound fewer)

include below

theorem takes_primary : Takes Primary (readPrimary levels) := by
  intro words whole rest read
  rw [readPrimary_eq] at read
  split at read
  · cases read
    exact ⟨_, rfl, .number _⟩
  · cases read
    exact ⟨_, rfl, .text _⟩
  · cases read
    exact ⟨_, rfl, .trueWord⟩
  · cases read
    exact ⟨_, rfl, .falseWord⟩
  · cases read
    exact ⟨_, rfl, .nullWord⟩
  · cases read
    exact ⟨_, rfl, .undefinedWord⟩
  · cases read
    exact ⟨_, rfl, .name _⟩
  · simp only [descend_eq_ok_iff, Outcome.bind_eq_ok_iff, Prod.exists] at read
    obtain ⟨fewer, rfl, inner, behind, first, last, closed, read⟩ := read
    cases read
    obtain ⟨front, rfl, derived⟩ := (below fewer (by omega)).conditional _ _ _ first
    obtain rfl := readSymbol_eq_ok_iff.mp closed
    exact ⟨_, by simp, .parentheses derived⟩
  · simp only [descend_eq_ok_iff, Outcome.bind_eq_ok_iff, Prod.exists] at read
    obtain ⟨fewer, rfl, items, behind, first, read⟩ := read
    cases read
    obtain ⟨_, rfl, front, rfl, derived⟩ := (below fewer (by omega)).items _ _ _ _ first
    exact ⟨_, by simp, .array derived⟩
  · simp only [descend_eq_ok_iff, Outcome.bind_eq_ok_iff, Prod.exists] at read
    obtain ⟨fewer, rfl, entries, behind, first, read⟩ := read
    cases read
    obtain ⟨_, rfl, front, rfl, derived⟩ := (below fewer (by omega)).entries _ _ _ first
    exact ⟨_, by simp, .object derived⟩
  · cases read

theorem takes_suffixes {before : List Lexeme} {subject : Expr} (derived : Postfix before subject) :
    Takes (fun front => Postfix (before ++ front)) (readSuffixes levels subject) := by
  intro words whole rest read
  rw [readSuffixes_eq] at read
  split at read
  · simp only [descend_eq_ok_iff, Outcome.bind_eq_ok_iff, Prod.exists] at read
    obtain ⟨fewer, rfl, name, behind, first, read⟩ := read
    obtain ⟨_, rfl, word, rfl, member⟩ := takes_member _ _ _ first
    have grown := derived.member member
    obtain ⟨front, rfl, complete⟩ := (below fewer (by omega)).suffixes _ _ grown _ _ _ read
    exact ⟨.symbol .dot :: word :: front, by simp, by simpa using complete⟩
  · simp only [descend_eq_ok_iff, Outcome.bind_eq_ok_iff, Prod.exists] at read
    obtain ⟨fewer, rfl, position, behind, first, last, closed, read⟩ := read
    obtain ⟨inside, rfl, inner⟩ := (below fewer (by omega)).conditional _ _ _ first
    obtain rfl := readSymbol_eq_ok_iff.mp closed
    have grown := derived.index inner
    obtain ⟨front, rfl, complete⟩ := (below fewer (by omega)).suffixes _ _ grown _ _ _ read
    refine ⟨.symbol .openBracket :: (inside ++ .symbol .closeBracket :: front), by simp, ?_⟩
    simpa using complete
  · simp only [descend_eq_ok_iff, Outcome.bind_eq_ok_iff, Prod.exists] at read
    obtain ⟨fewer, rfl, arguments, behind, ⟨least, rfl, first⟩, read⟩ := read
    obtain ⟨_, rfl, inside, rfl, inner⟩ := (below least (by omega)).items _ _ _ _ first
    have grown := derived.call inner
    obtain ⟨front, rfl, complete⟩ := (below (least + 1) (by omega)).suffixes _ _ grown _ _ _ read
    refine ⟨.symbol .openParen :: (inside ++ .symbol .closeParen :: front), by simp, ?_⟩
    simpa using complete
  · cases read
    exact ⟨[], rfl, by simpa using derived⟩

theorem takes_postfix : Takes Postfix (readPostfix levels) := by
  intro words whole rest read
  rw [readPostfix_eq] at read
  simp only [Outcome.bind_eq_ok_iff, Prod.exists] at read
  obtain ⟨subject, behind, first, read⟩ := read
  obtain ⟨before, rfl, derived⟩ := takes_primary below _ _ _ first
  obtain ⟨front, rfl, complete⟩ := takes_suffixes below (.primary derived) _ _ _ read
  exact ⟨_, by simp, complete⟩

theorem takes_unary : Takes Unary (readUnary levels) := by
  intro words whole rest read
  have postfixed (simple : readPostfix levels words = .ok (whole, rest)) :
      ∃ front, words = front ++ rest ∧ Unary front whole := by
    obtain ⟨front, same, derived⟩ := takes_postfix below _ _ _ simple
    exact ⟨front, same, .postfixed derived⟩
  rw [readUnary_eq] at read
  split at read
  · split at read
    · exact postfixed read
    · rename_i operator found
      simp only [descend_eq_ok_iff, Outcome.bind_eq_ok_iff, Prod.exists] at read
      obtain ⟨fewer, rfl, operand, behind, first, read⟩ := read
      cases read
      obtain rfl := UnaryOp.ofSymbol?_eq_some_iff.mp found
      obtain ⟨front, rfl, derived⟩ := (below fewer (by omega)).unary _ _ _ first
      exact ⟨_, rfl, .operation operator derived⟩
  · exact postfixed read

theorem takes_chain {level : Nat} {before : List Lexeme} {left : Expr}
    (derived : Binary (level + 1) before left) :
    Takes (fun front => Binary (level + 1) (before ++ front))
      (readChain (level + 1) levels left) := by
  intro words whole rest read
  rw [readChain_eq] at read
  split at read
  · split at read
    · cases read
      exact ⟨[], rfl, by simpa using derived⟩
    · rename_i operator found
      simp only [descend_eq_ok_iff, Outcome.bind_eq_ok_iff, Prod.exists] at read
      obtain ⟨fewer, rfl, right, behind, first, read⟩ := read
      obtain ⟨tight, rfl⟩ := BinaryOp.ofSymbol?_eq_some_iff.mp found
      obtain ⟨inside, rfl, inner⟩ := (below fewer (by omega)).binary _ _ _ _ first
      have grown := Binary.operation operator tight derived inner
      obtain ⟨front, rfl, complete⟩ := (below fewer (by omega)).chain _ _ _ grown _ _ _ read
      exact ⟨.symbol operator.symbol :: (inside ++ front), by simp, by simpa using complete⟩
  · cases read
    exact ⟨[], rfl, by simpa using derived⟩

theorem takes_binary (level : Nat) : Takes (Binary level) (readBinary level levels) := by
  induction level with
  | zero =>
      intro words whole rest read
      rw [readBinary_zero] at read
      obtain ⟨front, same, derived⟩ := takes_unary below _ _ _ read
      exact ⟨front, same, .unary derived⟩
  | succ level ih =>
      intro words whole rest read
      rw [readBinary_succ] at read
      simp only [Outcome.bind_eq_ok_iff, Prod.exists] at read
      obtain ⟨left, behind, first, read⟩ := read
      obtain ⟨before, rfl, derived⟩ := ih _ _ _ first
      obtain ⟨front, rfl, complete⟩ := takes_chain below (.operand derived) _ _ _ read
      exact ⟨_, by simp, complete⟩

theorem takes_conditional : Takes Conditional (readConditional levels) := by
  intro words whole rest read
  rw [readConditional_eq] at read
  simp only [Outcome.bind_eq_ok_iff, Prod.exists] at read
  obtain ⟨condition, behind, first, read⟩ := read
  obtain ⟨before, rfl, derived⟩ := takes_binary below 6 _ _ _ first
  split at read
  · simp only [descend_eq_ok_iff, Outcome.bind_eq_ok_iff, Prod.exists] at read
    obtain ⟨fewer, rfl, consequent, between, second, last, colon, alternative, after, third, read⟩ := read
    cases read
    obtain ⟨inside, rfl, chosen⟩ := (below fewer (by omega)).conditional _ _ _ second
    obtain rfl := readSymbol_eq_ok_iff.mp colon
    obtain ⟨outside, rfl, other⟩ := (below fewer (by omega)).conditional _ _ _ third
    exact ⟨_, by simp, .choice derived chosen other⟩
  · cases read
    exact ⟨before, rfl, .plain derived⟩

theorem takes_items (close : Symbol) :
    Takes (fun front items => ∃ words, front = words ++ [.symbol close] ∧ Items words items)
      (readItems close levels) := by
  intro words
  induction count : words.length using Nat.strong_induction_on generalizing words with
  | h size ih =>
      intro items rest read
      rw [readItems_eq] at read
      split at read
      · rename_i closed
        cases read
        obtain rfl := readSymbol_eq_ok_iff.mp closed
        exact ⟨_, rfl, [], rfl, .none⟩
      · simp only [Outcome.bind_eq_ok_iff, Prod.exists] at read
        obtain ⟨item, behind, first, read⟩ := read
        obtain ⟨front, rfl, derived⟩ := takes_conditional below _ _ _ first
        split at read
        · rename_i later comma
          simp only [Outcome.bind_eq_ok_iff, Prod.exists] at read
          obtain ⟨others, after, second, read⟩ := read
          cases read
          obtain rfl := readSymbol_eq_ok_iff.mp comma
          have shorter : later.length < size := by
            rw [← count, List.length_append, List.length_cons]
            omega
          obtain ⟨_, rfl, inside, rfl, complete⟩ := ih _ shorter _ rfl _ _ second
          refine ⟨_, ?_, _, rfl, .more derived complete⟩
          simp
        · simp only [Outcome.bind_eq_ok_iff] at read
          obtain ⟨last, closed, read⟩ := read
          cases read
          obtain rfl := readSymbol_eq_ok_iff.mp closed
          refine ⟨_, ?_, _, rfl, .last derived⟩
          simp

theorem takes_entries :
    Takes (fun front entries => ∃ words,
      front = words ++ [.symbol .closeBrace] ∧ Entries words entries) (readEntries levels) := by
  intro words
  induction count : words.length using Nat.strong_induction_on generalizing words with
  | h size ih =>
      intro entries rest read
      rw [readEntries_eq] at read
      split at read
      · rename_i closed
        cases read
        obtain rfl := readSymbol_eq_ok_iff.mp closed
        exact ⟨_, rfl, [], rfl, .none⟩
      · simp only [Outcome.bind_eq_ok_iff, Prod.exists] at read
        obtain ⟨key, _, first, _, colon, value, behind, second, read⟩ := read
        obtain ⟨_, rfl, word, rfl, keyed⟩ := takes_key _ _ _ first
        obtain rfl := readSymbol_eq_ok_iff.mp colon
        obtain ⟨front, rfl, derived⟩ := takes_conditional below _ _ _ second
        split at read
        · rename_i later comma
          simp only [Outcome.bind_eq_ok_iff, Prod.exists] at read
          obtain ⟨others, after, third, read⟩ := read
          cases read
          obtain rfl := readSymbol_eq_ok_iff.mp comma
          have shorter : later.length < size := by
            simp only [← count, List.length_append, List.length_cons]
            omega
          obtain ⟨_, rfl, inside, rfl, complete⟩ := ih _ shorter _ rfl _ _ third
          refine ⟨_, ?_, _, rfl, .more keyed derived complete⟩
          simp
        · simp only [Outcome.bind_eq_ok_iff] at read
          obtain ⟨last, closed, read⟩ := read
          cases read
          obtain rfl := readSymbol_eq_ok_iff.mp closed
          refine ⟨_, ?_, _, rfl, .last keyed derived⟩
          simp

end Step

theorem sound (levels : Nat) : Sound levels := by
  induction levels using Nat.strong_induction_on with
  | h levels below =>
      exact {
        conditional := takes_conditional below
        binary := takes_binary below
        chain := fun _ _ _ derived => takes_chain below derived
        unary := takes_unary below
        suffixes := fun _ _ derived => takes_suffixes below derived
        items := takes_items below
        entries := takes_entries below }

theorem conditional_of_ofWords {words : List Lexeme} {whole : Expr}
    (read : ofWords words = .ok whole) : Conditional words whole := by
  simp only [ofWords_eq, Outcome.bind_eq_ok_iff, Prod.exists] at read
  obtain ⟨found, rest, first, read⟩ := read
  split at read
  · cases read
    obtain ⟨front, rfl, derived⟩ := (sound maxDepth).conditional _ _ _ first
    simpa using derived
  · cases read

end Stencil.Expr
