import Stencil.Proofs.Expr.Reading

/-!
How high an expression can be that the parser builds. A level of nesting is given back as soon as
what it was taken for has been read, so that the levels limit what is open at one time and not the
height: a chain of operators may take all levels again over an operand that needed all of them.
-/

namespace Stencil.Expr

mutual

def height : Expr → Nat
  | .null => 0
  | .bool _ => 0
  | .number _ => 0
  | .text _ => 0
  | .array items => heightOfAll items + 1
  | .object entries => heightOfEntries entries + 1
  | .var _ => 0
  | .attribute subject _ => height subject + 1
  | .index subject position => max (height subject) (height position) + 1
  | .call callee arguments => max (height callee) (heightOfAll arguments) + 1
  | .unary _ operand => height operand + 1
  | .binary _ left right => max (height left) (height right) + 1
  | .conditional condition consequent alternative =>
      max (height condition) (max (height consequent) (height alternative)) + 1

def heightOfAll : List Expr → Nat
  | [] => 0
  | item :: items => max (height item) (heightOfAll items)

def heightOfEntries : List (String × Expr) → Nat
  | [] => 0
  | (_, item) :: entries => max (height item) (heightOfEntries entries)

end

/-- The greatest height with so many levels: every level admits a bracket, a conditional, and one
more member and one more operator of each precedence around what the levels below it admit. -/
def greatest : (levels : Nat) → Nat
  | 0 => 0
  | levels + 1 => greatest levels + 7 * (levels + 1) + 2

theorem greatest_mono {fewer levels : Nat} (below : fewer ≤ levels) :
    greatest fewer ≤ greatest levels := by
  induction levels with
  | zero =>
      obtain rfl : fewer = 0 := by omega
      exact Nat.le_refl _
  | succ levels ih =>
      by_cases same : fewer = levels + 1
      · exact Nat.le_of_eq (congrArg greatest same)
      · have smaller := ih (by omega)
        rw [greatest]
        omega

def greatestPrimary : (levels : Nat) → Nat
  | 0 => 0
  | levels + 1 => greatest levels + 1

def greatestBinary (level levels : Nat) : Nat := greatestPrimary levels + (level + 1) * levels

theorem greatestPrimary_mono {fewer levels : Nat} (below : fewer ≤ levels) :
    greatestPrimary fewer ≤ greatestPrimary levels := by
  cases fewer with
  | zero => exact Nat.zero_le _
  | succ fewer =>
      obtain ⟨levels, rfl⟩ : ∃ less, levels = less + 1 := ⟨levels - 1, by omega⟩
      have smaller : greatest fewer ≤ greatest levels := greatest_mono (by omega)
      rw [greatestPrimary, greatestPrimary]
      omega

theorem greatestBinary_mono {level fewer levels : Nat} (below : fewer ≤ levels) :
    greatestBinary level fewer ≤ greatestBinary level levels := by
  have primary := greatestPrimary_mono below
  have chains : (level + 1) * fewer ≤ (level + 1) * levels := Nat.mul_le_mul_left _ below
  rw [greatestBinary, greatestBinary]
  omega

theorem greatestBinary_succ (level levels : Nat) :
    greatestBinary (level + 1) levels = greatestBinary level levels + levels := by
  rw [greatestBinary, greatestBinary, Nat.succ_mul (level + 1)]
  omega

def Stays {α : Type} (size : α → Nat) (bound : Nat)
    (reader : List Lexeme → Except SyntaxFault (α × List Lexeme)) : Prop :=
  ∀ words value rest, reader words = .ok (value, rest) → size value ≤ bound

structure Bounded (levels : Nat) : Prop where
  conditional : Stays height (greatest levels) (readConditional levels)
  binary : ∀ level, Stays height (greatestBinary level levels) (readBinary level levels)
  chain : ∀ level left size, left.height ≤ size → greatestBinary level levels ≤ size →
    Stays height (size + levels) (readChain (level + 1) levels left)
  unary : Stays height (greatestBinary 0 levels) (readUnary levels)
  suffixes : ∀ subject size, subject.height ≤ size → greatestPrimary levels ≤ size →
    Stays height (size + levels) (readSuffixes levels subject)
  items : ∀ close, Stays heightOfAll (greatest levels) (readItems close levels)
  entries : Stays heightOfEntries (greatest levels) (readEntries levels)

section Step

variable {levels : Nat} (below : ∀ fewer < levels, Bounded fewer)

include below

theorem stays_primary : Stays height (greatestPrimary levels) (readPrimary levels) := by
  intro words whole rest read
  have literal (flat : whole.height = 0) : whole.height ≤ greatestPrimary levels := by omega
  rw [readPrimary_eq] at read
  split at read
  · cases read
    exact literal rfl
  · cases read
    exact literal rfl
  · cases read
    exact literal rfl
  · cases read
    exact literal rfl
  · cases read
    exact literal rfl
  · cases read
    exact literal rfl
  · cases read
    exact literal rfl
  · simp only [descend_eq_ok_iff, Outcome.bind_eq_ok_iff, Prod.exists] at read
    obtain ⟨fewer, rfl, inner, behind, first, last, closed, read⟩ := read
    cases read
    have inside := (below fewer (by omega)).conditional _ _ _ first
    rw [greatestPrimary]
    omega
  · simp only [descend_eq_ok_iff, Outcome.bind_eq_ok_iff, Prod.exists] at read
    obtain ⟨fewer, rfl, items, behind, first, read⟩ := read
    cases read
    have inside := (below fewer (by omega)).items _ _ _ _ first
    rw [greatestPrimary, height]
    omega
  · simp only [descend_eq_ok_iff, Outcome.bind_eq_ok_iff, Prod.exists] at read
    obtain ⟨fewer, rfl, entries, behind, first, read⟩ := read
    cases read
    have inside := (below fewer (by omega)).entries _ _ _ first
    rw [greatestPrimary, height]
    omega
  · cases read

theorem stays_suffixes {subject : Expr} {size : Nat} (small : subject.height ≤ size)
    (room : greatestPrimary levels ≤ size) :
    Stays height (size + levels) (readSuffixes levels subject) := by
  intro words whole rest read
  have further {fewer : Nat} {grown : Expr} {words rest : List Lexeme} {whole : Expr}
      (taken : levels = fewer + 1) (higher : grown.height ≤ size + 1)
      (read : readSuffixes fewer grown words = .ok (whole, rest)) :
      whole.height ≤ size + levels := by
    have fits : greatestPrimary fewer ≤ size + 1 := by
      have smaller : greatestPrimary fewer ≤ greatestPrimary levels :=
        greatestPrimary_mono (by omega)
      omega
    have later := (below fewer (by omega)).suffixes _ _ higher fits _ _ _ read
    omega
  rw [readSuffixes_eq] at read
  split at read
  · simp only [descend_eq_ok_iff, Outcome.bind_eq_ok_iff, Prod.exists] at read
    obtain ⟨fewer, taken, name, behind, first, read⟩ := read
    refine further taken ?_ read
    rw [height]
    omega
  · simp only [descend_eq_ok_iff, Outcome.bind_eq_ok_iff, Prod.exists] at read
    obtain ⟨fewer, rfl, position, behind, first, last, closed, read⟩ := read
    have inside := (below fewer (by omega)).conditional _ _ _ first
    refine further rfl ?_ read
    rw [greatestPrimary] at room
    rw [height]
    omega
  · simp only [descend_eq_ok_iff, Outcome.bind_eq_ok_iff, Prod.exists] at read
    obtain ⟨fewer, rfl, arguments, behind, ⟨least, rfl, first⟩, read⟩ := read
    have inside := (below least (by omega)).items _ _ _ _ first
    have smaller : greatest least ≤ greatest (least + 1) := greatest_mono (by omega)
    refine further rfl ?_ read
    rw [greatestPrimary] at room
    rw [height]
    omega
  · cases read
    omega

theorem stays_postfix : Stays height (greatestBinary 0 levels) (readPostfix levels) := by
  intro words whole rest read
  rw [readPostfix_eq] at read
  simp only [Outcome.bind_eq_ok_iff, Prod.exists] at read
  obtain ⟨subject, behind, first, read⟩ := read
  have small := stays_primary below _ _ _ first
  have grown := stays_suffixes below small (Nat.le_refl _) _ _ _ read
  rw [greatestBinary]
  omega

theorem stays_unary : Stays height (greatestBinary 0 levels) (readUnary levels) := by
  intro words whole rest read
  rw [readUnary_eq] at read
  split at read
  · split at read
    · exact stays_postfix below _ _ _ read
    · simp only [descend_eq_ok_iff, Outcome.bind_eq_ok_iff, Prod.exists] at read
      obtain ⟨fewer, rfl, operand, behind, first, read⟩ := read
      cases read
      have inside := (below fewer (by omega)).unary _ _ _ first
      have smaller : greatestPrimary fewer ≤ greatestPrimary (fewer + 1) :=
        greatestPrimary_mono (by omega)
      rw [greatestBinary] at inside ⊢
      rw [height]
      omega
  · exact stays_postfix below _ _ _ read

theorem stays_chain {level : Nat} {left : Expr} {size : Nat} (small : left.height ≤ size)
    (room : greatestBinary level levels ≤ size) :
    Stays height (size + levels) (readChain (level + 1) levels left) := by
  intro words whole rest read
  rw [readChain_eq] at read
  split at read
  · split at read
    · cases read
      omega
    · rename_i operator found
      simp only [descend_eq_ok_iff, Outcome.bind_eq_ok_iff, Prod.exists] at read
      obtain ⟨fewer, rfl, right, behind, first, read⟩ := read
      have smaller : greatestBinary level fewer ≤ greatestBinary level (fewer + 1) :=
        greatestBinary_mono (by omega)
      have inside : right.height ≤ greatestBinary level fewer :=
        (below fewer (by omega)).binary _ _ _ _ first
      have higher : (Expr.binary operator left right).height ≤ size + 1 := by
        rw [height]
        omega
      have later := (below fewer (by omega)).chain _ _ _ higher (by omega) _ _ _ read
      omega
  · cases read
    omega

theorem stays_binary (level : Nat) :
    Stays height (greatestBinary level levels) (readBinary level levels) := by
  induction level with
  | zero =>
      intro words whole rest read
      rw [readBinary_zero] at read
      exact stays_unary below _ _ _ read
  | succ level ih =>
      intro words whole rest read
      rw [readBinary_succ] at read
      simp only [Outcome.bind_eq_ok_iff, Prod.exists] at read
      obtain ⟨left, behind, first, read⟩ := read
      have small := ih _ _ _ first
      rw [greatestBinary_succ]
      exact stays_chain below small (Nat.le_refl _) _ _ _ read

theorem stays_conditional : Stays height (greatest levels) (readConditional levels) := by
  intro words whole rest read
  rw [readConditional_eq] at read
  simp only [Outcome.bind_eq_ok_iff, Prod.exists] at read
  obtain ⟨condition, behind, first, read⟩ := read
  have small := stays_binary below 6 _ _ _ first
  split at read
  · simp only [descend_eq_ok_iff, Outcome.bind_eq_ok_iff, Prod.exists] at read
    obtain ⟨fewer, rfl, consequent, between, second, last, colon, alternative, after, third, read⟩ :=
      read
    cases read
    have chosen := (below fewer (by omega)).conditional _ _ _ second
    have other := (below fewer (by omega)).conditional _ _ _ third
    rw [greatestBinary, greatestPrimary] at small
    rw [height, greatest]
    omega
  · cases read
    cases levels with
    | zero =>
        rw [greatestBinary, greatestPrimary] at small
        rw [greatest]
        omega
    | succ levels =>
        rw [greatestBinary, greatestPrimary] at small
        rw [greatest]
        omega

theorem stays_items (close : Symbol) :
    Stays heightOfAll (greatest levels) (readItems close levels) := by
  intro words
  generalize count : words.length = size
  induction size using Nat.strongRecOn generalizing words with
  | ind size ih =>
      intro items rest read
      rw [readItems_eq] at read
      split at read
      · cases read
        exact Nat.zero_le _
      · simp only [Outcome.bind_eq_ok_iff, Prod.exists] at read
        obtain ⟨item, behind, first, read⟩ := read
        have small := stays_conditional below _ _ _ first
        have shorter := length_of_shed first
        split at read
        · rename_i later comma
          simp only [Outcome.bind_eq_ok_iff, Prod.exists] at read
          obtain ⟨others, after, second, read⟩ := read
          cases read
          obtain rfl := readSymbol_eq_ok_iff.mp comma
          rw [List.length_cons] at shorter
          have smaller := ih later.length (by omega) later rfl _ _ second
          rw [heightOfAll]
          omega
        · simp only [Outcome.bind_eq_ok_iff] at read
          obtain ⟨last, closed, read⟩ := read
          cases read
          rw [heightOfAll, heightOfAll]
          omega

theorem stays_entries : Stays heightOfEntries (greatest levels) (readEntries levels) := by
  intro words
  generalize count : words.length = size
  induction size using Nat.strongRecOn generalizing words with
  | ind size ih =>
      intro entries rest read
      rw [readEntries_eq] at read
      split at read
      · cases read
        exact Nat.zero_le _
      · simp only [Outcome.bind_eq_ok_iff, Prod.exists] at read
        obtain ⟨key, start, keyed, inner, colon, value, behind, first, read⟩ := read
        have small := stays_conditional below _ _ _ first
        have shorter := length_of_shed first
        have behindKey := length_of_shed keyed
        obtain rfl := readSymbol_eq_ok_iff.mp colon
        rw [List.length_cons] at behindKey
        split at read
        · rename_i later comma
          simp only [Outcome.bind_eq_ok_iff, Prod.exists] at read
          obtain ⟨others, after, second, read⟩ := read
          cases read
          obtain rfl := readSymbol_eq_ok_iff.mp comma
          rw [List.length_cons] at shorter
          have smaller := ih later.length (by omega) later rfl _ _ second
          rw [heightOfEntries]
          omega
        · simp only [Outcome.bind_eq_ok_iff] at read
          obtain ⟨last, closed, read⟩ := read
          cases read
          rw [heightOfEntries, heightOfEntries]
          omega

end Step

theorem bounded (levels : Nat) : Bounded levels := by
  induction levels using Nat.strongRecOn with
  | ind levels below =>
      exact {
        conditional := stays_conditional below
        binary := stays_binary below
        chain := fun _ _ _ small room => stays_chain below small room
        unary := stays_unary below
        suffixes := fun _ _ small room => stays_suffixes below small room
        items := stays_items below
        entries := stays_entries below }

theorem height_le_of_ofWords {words : List Lexeme} {whole : Expr}
    (read : ofWords words = .ok whole) : whole.height ≤ greatest maxDepth := by
  simp only [ofWords_eq, Outcome.bind_eq_ok_iff, Prod.exists] at read
  obtain ⟨found, rest, first, read⟩ := read
  split at read
  · cases read
    exact (bounded maxDepth).conditional _ _ _ first
  · cases read

end Stencil.Expr
