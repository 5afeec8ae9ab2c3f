import Stencil.Proofs.Expr.Completeness
import Stencil.Proofs.Expr.Nestings
import Stencil.Proofs.Expr.Spelling

/-!
The highest expressions that the levels admit. For every number of levels there is an expression
that is as high as the bound allows, so that the bound on the height of what is compiled is met.
-/

namespace Stencil.Expr

def chainOperator : (level : Nat) → BinaryOp
  | 1 => .multiply
  | 2 => .add
  | 3 => .less
  | 4 => .equal
  | 5 => .both
  | _ => .either

theorem level_chainOperator {level : Nat} (below : level < 6) :
    (chainOperator (level + 1)).level = level + 1 := by
  match level, below with
  | 0, _ => rfl
  | 1, _ => rfl
  | 2, _ => rfl
  | 3, _ => rfl
  | 4, _ => rfl
  | 5, _ => rfl

def letter : Lexeme := .name "a"

def memberWords : (count : Nat) → List Lexeme
  | 0 => []
  | count + 1 => .symbol .dot :: letter :: memberWords count

def memberOf : (count : Nat) → Expr → Expr
  | 0, subject => subject
  | count + 1, subject => memberOf count (.attribute subject "a")

def chainWords (operator : BinaryOp) : (count : Nat) → List Lexeme
  | 0 => []
  | count + 1 => .symbol operator.symbol :: letter :: chainWords operator count

def chained (operator : BinaryOp) : (count : Nat) → Expr → Expr
  | 0, left => left
  | count + 1, left => chained operator count (.binary operator left (.var "a"))

def layerWords (count : Nat) : (level : Nat) → List Lexeme
  | 0 => []
  | level + 1 => layerWords count level ++ chainWords (chainOperator (level + 1)) count

def layered (count : Nat) : (level : Nat) → Expr → Expr
  | 0, operand => operand
  | level + 1, operand => chained (chainOperator (level + 1)) count (layered count level operand)

def tallestWords : (levels : Nat) → List Lexeme
  | 0 => [letter]
  | levels + 1 =>
      .symbol .openBracket :: (tallestWords levels ++ .symbol .closeBracket ::
        (memberWords (levels + 1) ++ (layerWords (levels + 1) 6 ++
          [.symbol .question, letter, .symbol .colon, letter])))

def tallest : (levels : Nat) → Expr
  | 0 => .var "a"
  | levels + 1 =>
      .conditional (layered (levels + 1) 6 (memberOf (levels + 1) (.array [tallest levels])))
        (.var "a") (.var "a")

theorem height_memberOf (count : Nat) (subject : Expr) :
    (memberOf count subject).height = subject.height + count := by
  induction count generalizing subject with
  | zero => rfl
  | succ count ih =>
      rw [memberOf, ih, height]
      omega

theorem height_chained (operator : BinaryOp) (count : Nat) (left : Expr) :
    (chained operator count left).height = left.height + count := by
  induction count generalizing left with
  | zero => rfl
  | succ count ih =>
      rw [chained, ih, height, height]
      omega

theorem height_layered (count level : Nat) (operand : Expr) :
    (layered count level operand).height = operand.height + level * count := by
  induction level with
  | zero => simp [layered]
  | succ level ih =>
      rw [layered, height_chained, ih, Nat.succ_mul]
      omega

theorem height_tallest (levels : Nat) : (tallest levels).height = greatest levels := by
  induction levels with
  | zero => rfl
  | succ levels ih =>
      rw [tallest, height, height_layered, height_memberOf, height, heightOfAll, heightOfAll, height,
        ih, greatest]
      omega

theorem readBinary_letter {level : Nat} {rest : List Lexeme} (ends : Ends level rest)
    (levels : Nat) : readBinary level levels (letter :: rest) = .ok (.var "a", rest) := by
  induction level with
  | zero =>
      rw [readBinary_zero, readUnary_eq]
      simp only [letter, readPostfix_eq, readPrimary_eq, Outcome.ok_bind]
      exact readSuffixes_of_ends ends levels _
  | succ level ih =>
      rw [readBinary_succ, ih (ends.mono (by omega)), Outcome.ok_bind]
      exact readChain_of_ends ends levels _

theorem readConditional_letter {rest : List Lexeme} (stops : Stops rest) (levels : Nat) :
    readConditional levels (letter :: rest) = .ok (.var "a", rest) := by
  rw [readConditional_eq, readBinary_letter stops.ends, Outcome.ok_bind]
  match rest with
  | [] => rfl
  | .symbol mark :: rest =>
      have stop : mark ∈ stopMarks := stops
      simp only [stopMarks, List.mem_cons, List.not_mem_nil, or_false] at stop
      rcases stop with rfl | rfl | rfl | rfl | rfl <;> rfl

theorem readSuffixes_members {count levels : Nat} {rest : List Lexeme} (ends : Ends 0 rest)
    (enough : count ≤ levels) (subject : Expr) :
    readSuffixes levels subject (memberWords count ++ rest) =
      .ok (memberOf count subject, rest) := by
  induction count generalizing levels subject with
  | zero => exact readSuffixes_of_ends ends levels subject
  | succ count ih =>
      obtain ⟨fewer, rfl⟩ : ∃ fewer, levels = fewer + 1 := ⟨levels - 1, by omega⟩
      rw [memberWords, List.cons_append, List.cons_append, readSuffixes_eq]
      have name : readMember (letter :: (memberWords count ++ rest)) =
          .ok ("a", memberWords count ++ rest) := rfl
      simp only [descend_succ, name, Outcome.ok_bind]
      exact ih (by omega) _

theorem ends_chainWords {operator : BinaryOp} {level : Nat} {rest : List Lexeme}
    (tight : operator.level = level + 1) (ends : Ends (level + 1) rest) (count : Nat) :
    Ends level (chainWords operator count ++ rest) := by
  cases count with
  | zero => exact ends.mono (by omega)
  | succ count => exact ends_operator operator tight _

theorem readChain_chained {operator : BinaryOp} {level count levels : Nat} {rest : List Lexeme}
    (tight : operator.level = level + 1) (ends : Ends (level + 1) rest) (enough : count ≤ levels)
    (left : Expr) :
    readChain (level + 1) levels left (chainWords operator count ++ rest) =
      .ok (chained operator count left, rest) := by
  induction count generalizing levels left with
  | zero => exact readChain_of_ends ends levels left
  | succ count ih =>
      obtain ⟨fewer, rfl⟩ : ∃ fewer, levels = fewer + 1 := ⟨levels - 1, by omega⟩
      have right := readBinary_letter (ends_chainWords tight ends count) fewer
      rw [chainWords, List.cons_append, List.cons_append, readChain_operator operator tight,
        descend_succ, right, Outcome.ok_bind]
      exact ih (by omega) _

/-- An operand that is read before any operator is read with all chains behind it. -/
theorem readBinary_layered {count level levels : Nat} {operandWords rest : List Lexeme}
    {operand : Expr} (within : level ≤ 6) (enough : count ≤ levels) (ends : Ends level rest)
    (read : ∀ rest, Ends 0 rest →
      readUnary levels (operandWords ++ rest) = .ok (operand, rest)) :
    readBinary level levels (operandWords ++ (layerWords count level ++ rest)) =
      .ok (layered count level operand, rest) := by
  induction level generalizing rest with
  | zero =>
      rw [readBinary_zero]
      exact read rest ends
  | succ level ih =>
      have tight : (chainOperator (level + 1)).level = level + 1 := level_chainOperator (by omega)
      have inner := ih (by omega) (ends_chainWords tight ends count)
      rw [readBinary_succ, layerWords, List.append_assoc, inner, Outcome.ok_bind]
      exact readChain_chained tight ends enough _

/-- An array of one item that does not start with the closing bracket. -/
theorem readPrimary_singleton {levels : Nat} {words behind : List Lexeme} {item : Expr}
    {fault : SyntaxFault}
    (started : readSymbol .closeBracket (words ++ .symbol .closeBracket :: behind) = .error fault)
    (read : readConditional levels (words ++ .symbol .closeBracket :: behind) =
      .ok (item, .symbol .closeBracket :: behind)) :
    readPrimary (levels + 1)
        (.symbol .openBracket :: (words ++ .symbol .closeBracket :: behind)) =
      .ok (.array [item], behind) := by
  have items : readItems .closeBracket levels (words ++ .symbol .closeBracket :: behind) =
      .ok ([item], behind) := by
    rw [readItems_eq, started]
    simp only [read, Outcome.ok_bind]
    rfl
  rw [readPrimary_eq]
  simp only [descend_succ, items, Outcome.ok_bind]
  rfl

theorem readConditional_tallest {levels : Nat} {rest : List Lexeme} (stops : Stops rest) :
    readConditional levels (tallestWords levels ++ rest) = .ok (tallest levels, rest) := by
  induction levels generalizing rest with
  | zero => exact readConditional_letter stops 0
  | succ levels ih =>
      have operand (behind : List Lexeme) (ends : Ends 0 behind) :
          readUnary (levels + 1) ((.symbol .openBracket :: (tallestWords levels ++
              .symbol .closeBracket :: memberWords (levels + 1))) ++ behind) =
            .ok (memberOf (levels + 1) (.array [tallest levels]), behind) := by
        obtain ⟨fault, started⟩ : ∃ fault, readSymbol .closeBracket (tallestWords levels ++
            .symbol .closeBracket :: (memberWords (levels + 1) ++ behind)) = .error fault := by
          cases levels <;> exact ⟨_, rfl⟩
        have array := readPrimary_singleton started (ih (by simp [Stops, stopMarks]))
        simp only [List.cons_append, List.append_assoc]
        rw [readUnary_eq]
        simp only [UnaryOp.ofSymbol?]
        rw [readPostfix_eq, array, Outcome.ok_bind]
        exact readSuffixes_members ends (Nat.le_refl _) _
      have joined := readBinary_layered (Nat.le_refl 6) (Nat.le_refl (levels + 1))
        (ends_question (letter :: .symbol .colon :: letter :: rest)) operand
      have stopped : Stops (.symbol .colon :: letter :: rest) := by simp [Stops, stopMarks]
      have chosen := readConditional_letter stopped levels
      simp only [tallestWords, List.cons_append, List.append_assoc, List.nil_append] at joined ⊢
      rw [readConditional_eq, joined]
      simp only [Outcome.ok_bind, descend_succ, chosen, readSymbol_cons,
        readConditional_letter stops]
      rfl

theorem verbatim_letter : letter.Verbatim := ⟨by decide, by decide⟩

theorem verbatim_memberWords {count : Nat} : ∀ word ∈ memberWords count, word.Verbatim := by
  induction count with
  | zero => nofun
  | succ count ih =>
      intro word member
      simp only [memberWords, List.mem_cons] at member
      rcases member with rfl | rfl | later
      · trivial
      · exact verbatim_letter
      · exact ih word later

theorem verbatim_chainWords {operator : BinaryOp} {count : Nat} :
    ∀ word ∈ chainWords operator count, word.Verbatim := by
  induction count with
  | zero => nofun
  | succ count ih =>
      intro word member
      simp only [chainWords, List.mem_cons] at member
      rcases member with rfl | rfl | later
      · trivial
      · exact verbatim_letter
      · exact ih word later

theorem verbatim_layerWords {count level : Nat} :
    ∀ word ∈ layerWords count level, word.Verbatim := by
  induction level with
  | zero => nofun
  | succ level ih =>
      intro word member
      rcases List.mem_append.mp member with inner | last
      · exact ih word inner
      · exact verbatim_chainWords word last

theorem verbatim_tallestWords {levels : Nat} : ∀ word ∈ tallestWords levels, word.Verbatim := by
  induction levels with
  | zero =>
      intro word member
      obtain rfl := List.mem_singleton.mp member
      exact verbatim_letter
  | succ levels ih =>
      intro word member
      simp only [tallestWords, List.mem_cons, List.mem_append, List.not_mem_nil, or_false] at member
      rcases member with rfl | inner | rfl | suffix | layer | rfl | rfl | rfl | rfl
      · trivial
      · exact ih word inner
      · trivial
      · exact verbatim_memberWords word suffix
      · exact verbatim_layerWords word layer
      · trivial
      · exact verbatim_letter
      · trivial
      · exact verbatim_letter

theorem compile_tallest :
    compile (String.ofList (Lexeme.spaced (tallestWords maxDepth))) = .ok (tallest maxDepth) := by
  have read : readConditional maxDepth (tallestWords maxDepth ++ []) = .ok (tallest maxDepth, []) :=
    readConditional_tallest trivial
  rw [List.append_nil] at read
  rw [compile, String.toList_ofList, Lexeme.readAll?_spaced verbatim_tallestWords]
  simp only [ofWords_eq, read, Outcome.ok_bind]

theorem greatest_maxDepth : greatest maxDepth = 14688 := by decide

theorem exists_compile_greatest :
    ∃ source whole, compile source = .ok whole ∧ whole.height = 14688 :=
  ⟨_, _, compile_tallest, (height_tallest maxDepth).trans greatest_maxDepth⟩

/-- A compiled expression is not higher than there are levels if no more words of its text open
one. In any case it is at most as high as all brackets, suffixes and chains can make it that fit into
the levels between them. -/
theorem compile_height_le {source : String} {whole : Expr} (compiled : compile source = .ok whole) :
    (nestings source ≤ maxDepth → whole.height ≤ maxDepth) ∧
      whole.height ≤ min (nestings source) 14688 := by
  have written := height_le_nestings compiled
  have limited : whole.height ≤ 14688 := by
    rw [← greatest_maxDepth]
    rw [compile] at compiled
    split at compiled
    · cases compiled
    · exact height_le_of_ofWords compiled
  constructor
  · intro few
    exact Nat.le_trans written few
  · exact Nat.le_min.mpr ⟨written, limited⟩

def memberChain : String :=
  "a.a.a.a.a.a.a.a.a.a.a.a.a.a.a.a.a.a.a.a.a.a.a.a.a.a.a.a.a.a.a.a." ++
    "a.a.a.a.a.a.a.a.a.a.a.a.a.a.a.a.a.a.a.a.a.a.a.a.a.a.a.a.a.a.a.a.a"

theorem Postfix.members {words : List Lexeme} {subject : Expr} (derived : Postfix words subject)
    (count : Nat) : Postfix (words ++ memberWords count) (memberOf count subject) := by
  induction count generalizing words subject with
  | zero =>
      rw [memberWords, List.append_nil]
      exact derived
  | succ count ih =>
      have longer := ih (derived.member (.name "a"))
      rwa [List.append_assoc] at longer

set_option maxRecDepth 20000 in
theorem compile_height_of_memberChain :
    nestings memberChain = maxDepth ∧
      ∃ whole, compile memberChain = .ok whole ∧ whole.height = maxDepth ∧
        whole.height ≤ maxDepth ∧ whole.height ≤ min (nestings memberChain) 14688 := by
  have read : Lexeme.readAll? memberChain.toList = some (letter :: memberWords maxDepth) := by
    decide +kernel
  have dots : nestings memberChain = maxDepth := by
    rw [nestings, read]
    rfl
  have derived : Conditional (letter :: memberWords maxDepth) (memberOf maxDepth (.var "a")) :=
    ((Postfix.primary (.name "a")).members maxDepth).conditional
  have compiled : compile memberChain = .ok (memberOf maxDepth (.var "a")) :=
    compile_of_words read (ofWords_of_levelsOf derived (by decide))
  have bounds := compile_height_le compiled
  exact ⟨dots, _, compiled, height_memberOf _ _, bounds.1 (Nat.le_of_eq dots), bounds.2⟩

def conjunctionChain : String :=
  "a&&a&&a&&a&&a&&a&&a&&a&&a&&a&&a&&a&&a&&a&&a&&a&&a&&a&&a&&a&&a&&a&&a&&a&&a&&a&&a&&a&&a&&a&&" ++
    "a&&a&&a&&a&&a&&a&&a&&a&&a&&a&&a&&a&&a&&a&&a&&a&&a&&a&&a&&a&&a&&a&&a&&a&&a&&a&&a&&a&&a&&a&&" ++
    "a&&a&&a&&a&&a||a"

set_option maxRecDepth 20000 in
/-- A chain gives its levels back before the operator behind it takes one. One word more than there
are levels is enough for that. -/
theorem compile_higher_than_levels :
    nestings conjunctionChain = maxDepth + 1 ∧
      ∃ whole, compile conjunctionChain = .ok whole ∧ whole.height = maxDepth + 1 := by
  have read : Lexeme.readAll? conjunctionChain.toList = some (.name "a" ::
      (List.replicate 64 [.symbol .both, .name "a"]).flatten ++ [.symbol .either, .name "a"]) := by
    decide +kernel
  have opened : nestings conjunctionChain = maxDepth + 1 := by
    rw [nestings, read]
    rfl
  have heights : (compile conjunctionChain).map height = .ok (maxDepth + 1) := by
    rw [compile, read]
    cbv
  exact ⟨opened, Outcome.map_eq_ok_iff.mp heights⟩

end Stencil.Expr
