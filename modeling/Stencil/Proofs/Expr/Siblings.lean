import Stencil.Proofs.Expr.Blame

/-!
Words that stop an expression do not change how the words before them are read, with the same levels
left. So the items of a bracket are read as they are on their own, however many there are.
-/

namespace Stencil.Expr

def Carries {α : Type} (tail : List Lexeme)
    (reader : List Lexeme → Except SyntaxFault (α × List Lexeme)) : Prop :=
  ∀ words value rest, reader words = .ok (value, rest) →
    reader (words ++ tail) = .ok (value, rest ++ tail)

structure Carrying (tail : List Lexeme) (levels : Nat) : Prop where
  conditional : Carries tail (readConditional levels)
  binary : ∀ level ≤ 6, Carries tail (readBinary level levels)
  chain : ∀ level ≤ 6, ∀ left, Carries tail (readChain level levels left)
  unary : Carries tail (readUnary levels)
  suffixes : ∀ subject, Carries tail (readSuffixes levels subject)
  items : ∀ close, Carries tail (readItems close levels)
  entries : Carries tail (readEntries levels)

theorem carries_member (tail : List Lexeme) : Carries tail readMember := by
  intro words name rest read
  cases words with
  | nil => cases read
  | cons word others =>
      cases word with
      | name written =>
          cases read
          rfl
      | keyword word =>
          cases read
          rfl
      | _ => cases read

theorem carries_key (tail : List Lexeme) : Carries tail readKey := by
  intro words name rest read
  cases words with
  | nil => cases read
  | cons word others =>
      cases word with
      | name written =>
          cases read
          rfl
      | text content =>
          cases read
          rfl
      | number value =>
          cases read
          rfl
      | _ => cases read

theorem readSymbol_append {symbol : Symbol} {words rest : List Lexeme}
    (read : readSymbol symbol words = .ok rest) (tail : List Lexeme) :
    readSymbol symbol (words ++ tail) = .ok (rest ++ tail) := by
  obtain rfl := readSymbol_eq_ok_iff.mp read
  exact readSymbol_cons _ _

theorem readBehind_append {α : Type} {close : Symbol} {item : α} {words rest tail : List Lexeme}
    {more : List Lexeme → Except SyntaxFault (List α × List Lexeme)} {items : List α}
    (carried : ∀ behind, words = .symbol .comma :: behind → ∀ items rest,
      more behind = .ok (items, rest) → more (behind ++ tail) = .ok (items, rest ++ tail))
    (read : readBehind close more item words = .ok (items, rest)) :
    readBehind close more item (words ++ tail) = .ok (items, rest ++ tail) := by
  by_cases comma : words.head? = some (.symbol .comma)
  · obtain ⟨behind, rfl⟩ := List.head?_eq_some_iff.mp comma
    simp only [readBehind, List.cons_append, readSymbol_cons, Outcome.bind_eq_ok_iff, Prod.exists]
      at read ⊢
    obtain ⟨others, after, second, read⟩ := read
    cases read
    exact ⟨others, _, carried behind rfl _ _ second, rfl⟩
  · simp only [readBehind, readSymbol_of_head comma, Outcome.bind_eq_ok_iff] at read
    obtain ⟨last, closed, read⟩ := read
    cases read
    obtain rfl := readSymbol_eq_ok_iff.mp closed
    have other : (Lexeme.symbol close :: (rest ++ tail)).head? ≠ some (.symbol .comma) := comma
    simp only [readBehind, List.cons_append, readSymbol_of_head other, readSymbol_cons]
    rfl

section Step

variable {tail : List Lexeme} {levels : Nat} (stops : Stops tail)
  (below : ∀ fewer < levels, Carrying tail fewer)

include below

theorem carries_primary : Carries tail (readPrimary levels) := by
  intro words whole rest read
  cases words with
  | nil =>
      rw [readPrimary_eq] at read
      cases read
  | cons word others =>
      rw [List.cons_append]
      rw [readPrimary_eq] at read ⊢
      cases word with
      | number value =>
          cases read
          rfl
      | text content =>
          cases read
          rfl
      | name written =>
          cases read
          rfl
      | keyword word =>
          cases word with
          | _ =>
              cases read
              rfl
      | symbol mark =>
          cases mark with
          | openParen =>
              simp only [descend_eq_ok_iff, Outcome.bind_eq_ok_iff, Prod.exists] at read ⊢
              obtain ⟨fewer, rfl, inner, behind, first, last, closed, read⟩ := read
              cases read
              have carried := (below fewer (by omega)).conditional _ _ _ first
              exact ⟨fewer, rfl, _, _, carried, _, readSymbol_append closed tail, rfl⟩
          | openBracket =>
              simp only [descend_eq_ok_iff, Outcome.bind_eq_ok_iff, Prod.exists] at read ⊢
              obtain ⟨fewer, rfl, items, behind, first, read⟩ := read
              cases read
              exact ⟨fewer, rfl, items, _, (below fewer (by omega)).items _ _ _ _ first, rfl⟩
          | openBrace =>
              simp only [descend_eq_ok_iff, Outcome.bind_eq_ok_iff, Prod.exists] at read ⊢
              obtain ⟨fewer, rfl, entries, behind, first, read⟩ := read
              cases read
              exact ⟨fewer, rfl, entries, _, (below fewer (by omega)).entries _ _ _ first, rfl⟩
          | _ => cases read

include stops

theorem carries_suffixes (subject : Expr) : Carries tail (readSuffixes levels subject) := by
  intro words whole rest read
  cases words with
  | nil =>
      rw [readSuffixes_eq] at read
      cases read
      exact readSuffixes_of_ends stops.ends levels subject
  | cons word others =>
      rw [List.cons_append]
      rw [readSuffixes_eq] at read ⊢
      cases word with
      | symbol mark =>
          cases mark with
          | dot =>
              simp only [descend_eq_ok_iff, Outcome.bind_eq_ok_iff, Prod.exists] at read ⊢
              obtain ⟨fewer, rfl, name, behind, first, read⟩ := read
              have later := (below fewer (by omega)).suffixes _ _ _ _ read
              exact ⟨fewer, rfl, name, _, carries_member tail _ _ _ first, later⟩
          | openBracket =>
              simp only [descend_eq_ok_iff, Outcome.bind_eq_ok_iff, Prod.exists] at read ⊢
              obtain ⟨fewer, rfl, position, behind, first, last, closed, read⟩ := read
              have carried := (below fewer (by omega)).conditional _ _ _ first
              have later := (below fewer (by omega)).suffixes _ _ _ _ read
              exact ⟨fewer, rfl, position, _, carried, _, readSymbol_append closed tail, later⟩
          | openParen =>
              simp only [descend_eq_ok_iff, Outcome.bind_eq_ok_iff, Prod.exists] at read ⊢
              obtain ⟨fewer, rfl, arguments, behind, ⟨least, rfl, first⟩, read⟩ := read
              have carried := (below least (by omega)).items _ _ _ _ first
              have later := (below (least + 1) (by omega)).suffixes _ _ _ _ read
              exact ⟨_, rfl, arguments, _, ⟨least, rfl, carried⟩, later⟩
          | _ =>
              cases read
              rfl
      | _ =>
          cases read
          rfl

theorem carries_suffixed : Carries tail (readPostfix levels) := by
  intro words whole rest read
  rw [readPostfix_eq] at read ⊢
  simp only [Outcome.bind_eq_ok_iff, Prod.exists] at read ⊢
  obtain ⟨subject, behind, first, read⟩ := read
  have carried := carries_primary below _ _ _ first
  exact ⟨subject, _, carried, carries_suffixes stops below subject _ _ _ read⟩

theorem carries_unary : Carries tail (readUnary levels) := by
  intro words whole rest read
  cases words with
  | nil =>
      have missing := length_of_shed read
      cases missing
  | cons word others =>
      rw [List.cons_append]
      rw [readUnary_eq] at read ⊢
      cases word with
      | symbol mark =>
          cases found : UnaryOp.ofSymbol? mark with
          | none =>
              simp only [found] at read ⊢
              exact carries_suffixed stops below _ _ _ read
          | some operator =>
              simp only [found, descend_eq_ok_iff, Outcome.bind_eq_ok_iff, Prod.exists] at read ⊢
              obtain ⟨fewer, rfl, operand, behind, first, read⟩ := read
              cases read
              exact ⟨fewer, rfl, operand, _, (below fewer (by omega)).unary _ _ _ first, rfl⟩
      | _ => exact carries_suffixed stops below _ _ _ read

theorem carries_chain {level : Nat} (small : level ≤ 6) (left : Expr) :
    Carries tail (readChain level levels left) := by
  intro words whole rest read
  cases words with
  | nil =>
      rw [readChain_eq] at read
      cases read
      exact readChain_of_ends (stops.ends.mono small) levels left
  | cons word others =>
      rw [List.cons_append]
      rw [readChain_eq] at read ⊢
      cases word with
      | symbol mark =>
          cases found : BinaryOp.ofSymbol? level mark with
          | none =>
              simp only [found] at read ⊢
              cases read
              rfl
          | some operator =>
              simp only [found, descend_eq_ok_iff, Outcome.bind_eq_ok_iff, Prod.exists] at read ⊢
              obtain ⟨fewer, rfl, right, behind, first, read⟩ := read
              have carried := (below fewer (by omega)).binary (level - 1) (by omega) _ _ _ first
              have later := (below fewer (by omega)).chain level small _ _ _ _ read
              exact ⟨fewer, rfl, right, _, carried, later⟩
      | _ =>
          cases read
          rfl

theorem carries_binary {level : Nat} (small : level ≤ 6) :
    Carries tail (readBinary level levels) := by
  induction level with
  | zero =>
      intro words whole rest read
      rw [readBinary_zero] at read ⊢
      exact carries_unary stops below _ _ _ read
  | succ level ih =>
      intro words whole rest read
      rw [readBinary_succ] at read ⊢
      simp only [Outcome.bind_eq_ok_iff, Prod.exists] at read ⊢
      obtain ⟨left, behind, first, read⟩ := read
      exact ⟨left, _, ih (by omega) _ _ _ first, carries_chain stops below small left _ _ _ read⟩

theorem carries_conditional : Carries tail (readConditional levels) := by
  intro words whole rest read
  rw [readConditional_eq] at read ⊢
  simp only [Outcome.bind_eq_ok_iff, Prod.exists] at read ⊢
  obtain ⟨condition, behind, first, read⟩ := read
  refine ⟨condition, _, carries_binary stops below (Nat.le_refl 6) _ _ _ first, ?_⟩
  cases behind with
  | nil =>
      cases read
      rw [List.nil_append]
      match tail with
      | [] => rfl
      | .symbol mark :: others =>
          have stop : mark ∈ stopMarks := stops
          simp only [stopMarks, List.mem_cons, List.not_mem_nil, or_false] at stop
          rcases stop with rfl | rfl | rfl | rfl | rfl <;> rfl
  | cons word others =>
      rw [List.cons_append]
      cases word with
      | symbol mark =>
          cases mark with
          | question =>
              simp only [descend_eq_ok_iff, Outcome.bind_eq_ok_iff, Prod.exists] at read ⊢
              obtain ⟨fewer, rfl, consequent, between, second, last, colon, read⟩ := read
              obtain ⟨alternative, after, third, read⟩ := read
              cases read
              have chosen := (below fewer (by omega)).conditional _ _ _ second
              have other := (below fewer (by omega)).conditional _ _ _ third
              exact ⟨fewer, rfl, consequent, _, chosen, _, readSymbol_append colon tail,
                alternative, _, other, rfl⟩
          | _ =>
              cases read
              rfl
      | _ =>
          cases read
          rfl

theorem carries_items (close : Symbol) : Carries tail (readItems close levels) := by
  intro words
  induction count : words.length using Nat.strongRecOn generalizing words with
  | ind size ih =>
      intro items rest read
      by_cases closed : words.head? = some (.symbol close)
      · obtain ⟨behind, rfl⟩ := List.head?_eq_some_iff.mp closed
        rw [List.cons_append]
        rw [readItems_eq, readSymbol_cons] at read ⊢
        cases read
        rfl
      · rw [readItems_of_head closed] at read
        simp only [Outcome.bind_eq_ok_iff, Prod.exists] at read
        obtain ⟨item, behind, first, read⟩ := read
        have shorter := length_of_shed first
        have head : (words ++ tail).head? ≠ some (.symbol close) := by
          rwa [List.head?_append_of_ne_nil _ (List.ne_nil_of_length_pos (by omega))]
        rw [readItems_of_head head, carries_conditional stops below _ _ _ first, Outcome.ok_bind]
        refine readBehind_append ?_ read
        rintro later rfl
        rw [List.length_cons] at shorter
        exact ih later.length (by omega) later rfl

theorem carries_entries : Carries tail (readEntries levels) := by
  intro words
  induction count : words.length using Nat.strongRecOn generalizing words with
  | ind size ih =>
      intro entries rest read
      by_cases closed : words.head? = some (.symbol .closeBrace)
      · obtain ⟨behind, rfl⟩ := List.head?_eq_some_iff.mp closed
        rw [List.cons_append]
        rw [readEntries_eq, readSymbol_cons] at read ⊢
        cases read
        rfl
      · rw [readEntries_of_head closed] at read
        simp only [Outcome.bind_eq_ok_iff, Prod.exists] at read
        obtain ⟨key, afterKey, keyed, inner, colon, value, behind, first, read⟩ := read
        have shorter := length_of_shed first
        have behindKey := length_of_shed keyed
        have head : (words ++ tail).head? ≠ some (.symbol .closeBrace) := by
          rwa [List.head?_append_of_ne_nil _ (List.ne_nil_of_length_pos (by omega))]
        simp only [readEntries_of_head head, carries_key tail _ _ _ keyed,
          readSymbol_append colon tail, carries_conditional stops below _ _ _ first,
          Outcome.ok_bind]
        obtain rfl := readSymbol_eq_ok_iff.mp colon
        refine readBehind_append ?_ read
        rintro later rfl
        rw [List.length_cons] at shorter behindKey
        exact ih later.length (by omega) later rfl

end Step

theorem carrying {tail : List Lexeme} (stops : Stops tail) (levels : Nat) :
    Carrying tail levels := by
  induction levels using Nat.strongRecOn with
  | ind levels below =>
      exact {
        conditional := carries_conditional stops below
        binary := fun _ small => carries_binary stops below small
        chain := fun _ small left => carries_chain stops below small left
        unary := carries_unary stops below
        suffixes := carries_suffixes stops below
        items := carries_items stops below
        entries := carries_entries stops below }

/-- The items of an array are read one by one, each with the levels that the first one has. -/
theorem readItems_intercalate {levels : Nat} {items : List (List Lexeme)} {values : List Expr}
    (read : List.Forall₂ (fun words whole => readConditional levels words = .ok (whole, [])) items
      values) :
    readItems .closeBracket levels
      ([.symbol .comma].intercalate items ++ [.symbol .closeBracket]) = .ok (values, []) := by
  induction read with
  | nil => rw [List.intercalate_nil, List.nil_append, readItems_eq, readSymbol_cons]
  | @cons words whole items values first others ih =>
      have derived : Conditional words whole := by
        obtain ⟨front, same, derived⟩ := (sound levels).conditional _ _ _ first
        rwa [same, List.append_nil]
      have alone {tail : List Lexeme} (stops : Stops tail) :
          readConditional levels (words ++ tail) = .ok (whole, tail) :=
        (carrying stops levels).conditional _ _ _ first
      cases others with
      | nil =>
          rw [List.intercalate_singleton,
            readItems_of_conditional derived (by simp [listMarks]),
            alone (by simp [Stops, stopMarks])]
          rfl
      | cons second others =>
          rw [List.intercalate_cons_cons, List.append_assoc, List.append_assoc,
            readItems_of_conditional derived (by simp [listMarks]),
            alone (by simp [Stops, stopMarks])]
          simp only [Outcome.ok_bind, List.cons_append, List.nil_append, readSymbol_cons, ih]
          rfl

/-- An operand that all the words spell is an expression by itself. -/
theorem readConditional_of_primary {levels : Nat} {words : List Lexeme} {whole : Expr}
    (begins : Begins operandMarks words) (read : readPrimary levels words = .ok (whole, [])) :
    readConditional levels words = .ok (whole, []) := by
  have binary (level : Nat) : readBinary level levels words = .ok (whole, []) := by
    induction level with
    | zero =>
        rw [readBinary_zero, readUnary_of_begins begins, readPostfix_eq, read, Outcome.ok_bind]
        exact readSuffixes_of_ends (show Ends 0 [] from trivial) levels whole
    | succ level ih =>
        rw [readBinary_succ, ih, Outcome.ok_bind]
        exact readChain_of_ends (show Ends (level + 1) [] from trivial) levels whole
  rw [readConditional_eq, binary 6]
  rfl

theorem readConditional_array {levels : Nat} {items : List (List Lexeme)} {values : List Expr}
    (read : List.Forall₂ (fun words whole => readConditional levels words = .ok (whole, [])) items
      values) :
    readConditional (levels + 1) (.symbol .openBracket ::
        ([.symbol .comma].intercalate items ++ [.symbol .closeBracket])) =
      .ok (.array values, []) := by
  refine readConditional_of_primary ⟨_, _, rfl, by rintro _ ⟨⟩; simp [operandMarks]⟩ ?_
  rw [readPrimary_eq]
  simp only [descend_succ, readItems_intercalate read, Outcome.ok_bind]
  rfl

end Stencil.Expr
