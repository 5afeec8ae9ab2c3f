import Stencil.Proofs.Expr.Nestings

/-!
Words that spell an expression are read as this expression, with whatever follows left over, unless
the expression needs more levels than there are. It never needs more than its words can open. So the
words spell one expression only, and are accepted if they open few enough levels.
-/

namespace Stencil

/-- The levels that are taken for a word at most: an opening parenthesis takes two for a call. -/
def Lexeme.levels : Lexeme → Nat
  | .symbol .openParen => 2
  | .symbol mark => mark.nests.toNat
  | _ => 0

namespace Expr

def levelsOf : List Lexeme → Nat
  | [] => 0
  | word :: words => word.levels + levelsOf words

theorem levelsOf_cons (word : Lexeme) (words : List Lexeme) :
    levelsOf (word :: words) = word.levels + levelsOf words := rfl

theorem levelsOf_append (words others : List Lexeme) :
    levelsOf (words ++ others) = levelsOf words + levelsOf others := by
  induction words with
  | nil => rw [List.nil_append, levelsOf, Nat.zero_add]
  | cons word words ih => rw [List.cons_append, levelsOf_cons, levelsOf_cons, ih, Nat.add_assoc]

@[simp] theorem levels_binary (operator : BinaryOp) :
    (Lexeme.symbol operator.symbol).levels = 1 := by
  cases operator <;> rfl

@[simp] theorem levels_unary (operator : UnaryOp) :
    (Lexeme.symbol operator.symbol).levels = 1 := by
  cases operator <;> rfl

theorem levelsOf_right_le (words rest : List Lexeme) : levelsOf rest ≤ levelsOf (words ++ rest) := by
  rw [levelsOf_append]
  exact Nat.le_add_left _ _

theorem levelsOf_behind_le (words : List Lexeme) (word : Lexeme) (rest : List Lexeme) :
    levelsOf rest ≤ levelsOf (words ++ word :: rest) := by
  rw [levelsOf_append, levelsOf_cons]
  omega

theorem levelsOf_behind_lt {words : List Lexeme} {word : Lexeme} (opens : 0 < word.levels) :
    levelsOf words < levelsOf (word :: words) := by
  rw [levelsOf_cons]
  omega

section Settles

variable {α β : Type} {budget further : Nat}

/-- The reader gives the value as soon as it has the levels that it needs, which the budget covers;
with fewer it only ever complains about their number. -/
def Settles (budget : Nat) (reader : Nat → Except SyntaxFault α) (value : α) : Prop :=
  ∃ need ≤ budget, ∀ levels,
    reader levels = if need ≤ levels then .ok value else .error .tooDeep

theorem Settles.mono {reader : Nat → Except SyntaxFault α} {value : α}
    (settles : Settles budget reader value) (within : budget ≤ further) :
    Settles further reader value := by
  obtain ⟨need, covered, settled⟩ := settles
  exact ⟨need, Nat.le_trans covered within, settled⟩

theorem Settles.congr {reader other : Nat → Except SyntaxFault α} {value : α}
    (same : ∀ levels, reader levels = other levels) (settles : Settles budget other value) :
    Settles budget reader value := by
  obtain ⟨need, covered, settled⟩ := settles
  exact ⟨need, covered, fun levels => (same levels).trans (settled levels)⟩

theorem settles_ok (budget : Nat) (value : α) : Settles budget (fun _ => .ok value) value :=
  ⟨0, Nat.zero_le _, by simp⟩

theorem Settles.bind {reader : Nat → Except SyntaxFault α} {value : α}
    {next : Nat → α → Except SyntaxFault β} {result : β} (first : Settles budget reader value)
    (second : Settles budget (fun levels => next levels value) result) :
    Settles budget (fun levels => reader levels >>= next levels) result := by
  obtain ⟨need, covered, settled⟩ := first
  obtain ⟨more, alsoCovered, finished⟩ := second
  refine ⟨max need more, Nat.max_le.mpr ⟨covered, alsoCovered⟩, ?_⟩
  intro levels
  simp only [settled, Nat.max_le]
  by_cases enough : need ≤ levels
  · simp [enough, finished]
  · simp [enough]

theorem Settles.descend {next : Nat → Except SyntaxFault α} {value : α}
    (settles : Settles further next value) (room : further < budget) :
    Settles budget (fun levels => Expr.descend levels next) value := by
  obtain ⟨need, covered, settled⟩ := settles
  refine ⟨need + 1, by omega, ?_⟩
  intro levels
  cases levels with
  | zero => simp
  | succ levels => simp [settled]

theorem Settles.unique {reader : Nat → Except SyntaxFault α} {value other : α}
    (settles : Settles budget reader value) (otherSettles : Settles further reader other) :
    value = other := by
  obtain ⟨need, _, settled⟩ := settles
  obtain ⟨otherNeed, _, otherSettled⟩ := otherSettles
  have first := settled (max need otherNeed)
  have second := otherSettled (max need otherNeed)
  rw [if_pos (Nat.le_max_left _ _)] at first
  rw [if_pos (Nat.le_max_right _ _), first] at second
  exact Except.ok.inj second

end Settles

def stopMarks : List Symbol := [.colon, .comma, .closeParen, .closeBracket, .closeBrace]

def Stops : List Lexeme → Prop
  | [] => True
  | .symbol mark :: _ => mark ∈ stopMarks
  | _ => False

def Ends (level : Nat) : List Lexeme → Prop
  | .symbol mark :: _ =>
      mark ∉ [Symbol.dot, .openBracket, .openParen] ∧
        ∀ operator : BinaryOp, operator.symbol = mark → level < operator.level
  | _ => True

theorem Ends.mono {level lower : Nat} {rest : List Lexeme} (ends : Ends level rest)
    (below : lower ≤ level) : Ends lower rest := by
  unfold Ends at ends ⊢
  split
  · refine ⟨ends.1, ?_⟩
    intro operator same
    have := ends.2 operator same
    omega
  · trivial

theorem Stops.ends {rest : List Lexeme} (stops : Stops rest) : Ends 6 rest := by
  match rest with
  | [] => trivial
  | .symbol mark :: _ =>
      have stop : mark ∈ stopMarks := stops
      simp only [stopMarks, List.mem_cons, List.not_mem_nil, or_false] at stop
      refine ⟨?_, ?_⟩
      · rcases stop with rfl | rfl | rfl | rfl | rfl <;> simp
      · rintro operator rfl
        cases operator <;> simp [BinaryOp.symbol] at stop

theorem ends_operator (operator : BinaryOp) {level : Nat} (tight : operator.level = level + 1)
    (rest : List Lexeme) : Ends level (.symbol operator.symbol :: rest) := by
  refine ⟨by cases operator <;> simp [BinaryOp.symbol], ?_⟩
  intro other same
  rw [BinaryOp.symbol_injective same]
  omega

theorem ends_question (rest : List Lexeme) : Ends 6 (.symbol .question :: rest) := by
  refine ⟨by simp, ?_⟩
  intro operator same
  cases operator <;> cases same

theorem readSymbol_error_of_begins {marks : List Symbol} {symbol : Symbol} {words : List Lexeme}
    (begins : Begins marks words) (other : symbol ∉ marks) :
    ∃ fault, readSymbol symbol words = .error fault := by
  obtain ⟨word, rest, rfl, leads⟩ := begins
  cases read : readSymbol symbol (word :: rest) with
  | error fault => exact ⟨fault, rfl⟩
  | ok rest =>
      have same := readSymbol_eq_ok_iff.mp read
      simp only [List.cons.injEq] at same
      exact absurd (leads symbol same.1) other

theorem readSuffixes_of_ends {level : Nat} {rest : List Lexeme} (ends : Ends level rest)
    (levels : Nat) (subject : Expr) : readSuffixes levels subject rest = .ok (subject, rest) := by
  rw [readSuffixes_eq]
  split
  · exact absurd ends.1 (by simp)
  · exact absurd ends.1 (by simp)
  · exact absurd ends.1 (by simp)
  · rfl

theorem readChain_of_ends {level : Nat} {rest : List Lexeme} (ends : Ends level rest)
    (levels : Nat) (left : Expr) : readChain level levels left rest = .ok (left, rest) := by
  rw [readChain_eq]
  split
  · split
    · rfl
    · rename_i operator found
      obtain ⟨tight, same⟩ := BinaryOp.ofSymbol?_eq_some_iff.mp found
      have above := ends.2 operator same
      omega
  · rfl

theorem readChain_operator (operator : BinaryOp) {level : Nat}
    (tight : operator.level = level + 1) (levels : Nat) (left : Expr) (rest : List Lexeme) :
    readChain (level + 1) levels left (.symbol operator.symbol :: rest) =
      descend levels fun levels =>
        readBinary level levels rest >>= fun (right, rest) =>
          readChain (level + 1) levels (.binary operator left right) rest := by
  have found : BinaryOp.ofSymbol? (level + 1) operator.symbol = some operator :=
    BinaryOp.ofSymbol?_eq_some_iff.mpr ⟨tight, rfl⟩
  rw [readChain_eq]
  simp only [found, Nat.add_sub_cancel]

theorem readUnary_of_begins {words : List Lexeme} (begins : Begins operandMarks words)
    (levels : Nat) : readUnary levels words = readPostfix levels words := by
  obtain ⟨word, rest, rfl, leads⟩ := begins
  rw [readUnary_eq]
  cases word with
  | symbol mark =>
      have operand := leads mark rfl
      simp only [operandMarks, List.mem_cons, List.not_mem_nil, or_false] at operand
      rcases operand with rfl | rfl | rfl <;> rfl
  | _ => rfl

theorem readUnary_operator (operator : UnaryOp) (levels : Nat) (rest : List Lexeme) :
    readUnary levels (.symbol operator.symbol :: rest) =
      descend levels fun levels => do
        let (operand, rest) ← readUnary levels rest
        return (.unary operator operand, rest) := by
  have found : UnaryOp.ofSymbol? operator.symbol = some operator :=
    UnaryOp.ofSymbol?_eq_some_iff.mpr rfl
  rw [readUnary_eq]
  simp only [found]

def listMarks : List Symbol := [.closeParen, .closeBracket]

theorem stops_of_listMark {close : Symbol} (closing : close ∈ listMarks) (rest : List Lexeme) :
    Stops (.symbol close :: rest) := by
  simp only [listMarks, List.mem_cons, List.not_mem_nil, or_false] at closing
  rcases closing with rfl | rfl <;> simp [Stops, stopMarks]

theorem readItems_of_conditional {words : List Lexeme} {whole : Expr} {close : Symbol}
    (derived : Conditional words whole) (closing : close ∈ listMarks) (levels : Nat)
    (rest : List Lexeme) :
    readItems close levels (words ++ rest) =
      readConditional levels (words ++ rest) >>= fun (item, rest) =>
        match readSymbol .comma rest with
        | .ok rest => do
            let (items, rest) ← readItems close levels rest
            return (item :: items, rest)
        | .error _ => do
            let rest ← readSymbol close rest
            return ([item], rest) := by
  have other : close ∉ operandMarks ++ prefixMarks := by
    simp only [listMarks, List.mem_cons, List.not_mem_nil, or_false] at closing
    rcases closing with rfl | rfl <;> simp [operandMarks, prefixMarks]
  obtain ⟨fault, unclosed⟩ := readSymbol_error_of_begins (derived.begins.append rest) other
  have unfolded := readItems_eq close levels (words ++ rest)
  rw [unclosed] at unfolded
  exact unfolded

theorem readEntries_of_key {word : Lexeme} {key : String} (keyed : Key word key) (levels : Nat)
    (rest : List Lexeme) :
    readEntries levels (word :: .symbol .colon :: rest) =
      readConditional levels rest >>= fun (value, rest) =>
        match readSymbol .comma rest with
        | .ok rest => do
            let (entries, rest) ← readEntries levels rest
            return ((key, value) :: entries, rest)
        | .error _ => do
            let rest ← readSymbol .closeBrace rest
            return ([(key, value)], rest) := by
  rw [readEntries_eq]
  cases keyed <;> rfl

theorem readSymbol_comma_of_listMark {close : Symbol} (closing : close ∈ listMarks)
    (rest : List Lexeme) :
    readSymbol .comma (.symbol close :: rest) = .error (.unexpected (.symbol close)) := by
  simp only [listMarks, List.mem_cons, List.not_mem_nil, or_false] at closing
  rcases closing with rfl | rfl <;> rfl

theorem readMember_of_member {word : Lexeme} {name : String} (member : Member word name)
    (rest : List Lexeme) : readMember (word :: rest) = .ok (name, rest) := by
  cases member <;> rfl

def readGrown : (level levels : Nat) → Expr → List Lexeme → Except SyntaxFault (Expr × List Lexeme)
  | 0, _, left, words => .ok (left, words)
  | level + 1, levels, left, words => readChain (level + 1) levels left words

theorem settles_grown_of_ends {level : Nat} {rest : List Lexeme} (ends : Ends level rest)
    (left : Expr) :
    Settles (levelsOf rest) (fun levels => readGrown level levels left rest) (left, rest) := by
  cases level with
  | zero => exact settles_ok _ _
  | succ level => exact (settles_ok _ _).congr fun levels => readChain_of_ends ends levels left

mutual

theorem Conditional.settles {words rest : List Lexeme} {whole : Expr} (stops : Stops rest) :
    Conditional words whole →
      Settles (levelsOf (words ++ rest)) (fun levels => readConditional levels (words ++ rest))
        (whole, rest)
  | .plain derived => by
      have ends := stops.ends
      refine Settles.congr (fun levels => readConditional_eq levels _) ?_
      refine (derived.settles (ends.mono (by omega)) (settles_grown_of_ends ends _)).bind ?_
      match rest with
      | [] => exact settles_ok _ _
      | .symbol mark :: rest =>
          have stop : mark ∈ stopMarks := stops
          simp only [stopMarks, List.mem_cons, List.not_mem_nil, or_false] at stop
          rcases stop with rfl | rfl | rfl | rfl | rfl <;> exact settles_ok _ _
  | .choice condition consequent alternative => by
      simp only [List.append_assoc, List.cons_append]
      have ends := ends_question
      refine Settles.congr (fun levels => readConditional_eq levels _) ?_
      refine (condition.settles ((ends _).mono (by omega))
        (settles_grown_of_ends (ends _) _)).bind ?_
      refine Settles.descend ((consequent.settles (by simp [Stops, stopMarks])).bind ?_) ?_
      · simp only [readSymbol_cons, Outcome.ok_bind]
        exact ((alternative.settles stops).mono (levelsOf_behind_le _ _ _)).bind (settles_ok _ _)
      · exact Nat.lt_of_lt_of_le (levelsOf_behind_lt (by decide)) (levelsOf_right_le _ _)

/-- What follows is read on with the whole as the first operand of its level. -/
theorem Binary.settles {level : Nat} {words rest : List Lexeme} {whole : Expr}
    {result : Expr × List Lexeme} (ends : Ends (level - 1) rest) :
    Binary level words whole →
      Settles (levelsOf rest) (fun levels => readGrown level levels whole rest) result →
      Settles (levelsOf (words ++ rest)) (fun levels => readBinary level levels (words ++ rest))
        result
  | .unary derived, grown => by
      refine Settles.congr (fun levels => readBinary_zero levels _) ?_
      obtain rfl := (settles_ok 0 _).unique grown
      exact derived.settles ends
  | .operand derived, grown => by
      refine Settles.congr (fun levels => readBinary_succ _ levels _) ?_
      refine (derived.settles (ends.mono (by omega)) (settles_grown_of_ends ends _)).bind ?_
      exact grown.mono (levelsOf_right_le _ _)
  | .operation operator tight left right, grown => by
      simp only [List.append_assoc, List.cons_append]
      refine left.settles (ends_operator operator tight _) ?_
      refine Settles.congr (fun levels => readChain_operator operator tight levels _ _) ?_
      refine Settles.descend
        ((right.settles (ends.mono (by omega)) (settles_grown_of_ends ends _)).bind ?_) ?_
      · exact grown.mono (levelsOf_right_le _ _)
      · exact levelsOf_behind_lt (by simp)

theorem Unary.settles {words rest : List Lexeme} {whole : Expr} (ends : Ends 0 rest) :
    Unary words whole →
      Settles (levelsOf (words ++ rest)) (fun levels => readUnary levels (words ++ rest))
        (whole, rest)
  | .postfixed derived => by
      refine Settles.congr (readUnary_of_begins (derived.begins.append rest)) ?_
      refine derived.settles ?_
      exact (settles_ok _ _).congr fun levels => readSuffixes_of_ends ends levels _
  | .operation operator operand => by
      refine Settles.congr (fun levels => readUnary_operator operator levels _) ?_
      refine Settles.descend ((operand.settles ends).bind (settles_ok _ _)) ?_
      exact levelsOf_behind_lt (by simp)

/-- What follows is read on with the whole as the subject. -/
theorem Postfix.settles {words rest : List Lexeme} {whole : Expr}
    {result : Expr × List Lexeme} :
    Postfix words whole →
      Settles (levelsOf rest) (fun levels => readSuffixes levels whole rest) result →
      Settles (levelsOf (words ++ rest)) (fun levels => readPostfix levels (words ++ rest)) result
  | .primary derived, grown => by
      refine Settles.congr (fun levels => readPostfix_eq levels _) ?_
      exact derived.settles.bind (grown.mono (levelsOf_right_le _ _))
  | .member subject named, grown => by
      simp only [List.append_assoc, List.cons_append, List.nil_append]
      refine subject.settles ?_
      refine Settles.congr (fun levels => readSuffixes_eq levels _ _) ?_
      refine Settles.descend (Settles.congr (fun levels => ?_) grown) ?_
      · rw [readMember_of_member named, Outcome.ok_bind]
      · have dot : (Lexeme.symbol .dot).levels = 1 := rfl
        rw [levelsOf_cons, levelsOf_cons, dot]
        omega
  | .index subject position, grown => by
      simp only [List.append_assoc, List.cons_append, List.nil_append]
      refine subject.settles ?_
      refine Settles.congr (fun levels => readSuffixes_eq levels _ _) ?_
      refine Settles.descend ((position.settles (by simp [Stops, stopMarks])).bind ?_) ?_
      · simp only [readSymbol_cons, Outcome.ok_bind]
        exact grown.mono (levelsOf_behind_le _ _ _)
      · exact levelsOf_behind_lt (by decide)
  | .call callee arguments, grown => by
      simp only [List.append_assoc, List.cons_append, List.nil_append]
      refine callee.settles ?_
      refine Settles.congr (fun levels => readSuffixes_eq levels _ _) ?_
      refine Settles.descend ((Settles.descend (arguments.settles (by simp [listMarks]))
        (Nat.lt_succ_self _)).bind ?_) ?_
      · exact grown.mono (Nat.le_succ_of_le (levelsOf_behind_le _ _ _))
      · rw [levelsOf_cons, Lexeme.levels]
        omega

theorem Primary.settles {words rest : List Lexeme} {whole : Expr} :
    Primary words whole →
      Settles (levelsOf (words ++ rest)) (fun levels => readPrimary levels (words ++ rest))
        (whole, rest)
  | .number _ => (settles_ok _ _).congr fun levels => readPrimary_eq levels _
  | .text _ => (settles_ok _ _).congr fun levels => readPrimary_eq levels _
  | .trueWord => (settles_ok _ _).congr fun levels => readPrimary_eq levels _
  | .falseWord => (settles_ok _ _).congr fun levels => readPrimary_eq levels _
  | .nullWord => (settles_ok _ _).congr fun levels => readPrimary_eq levels _
  | .undefinedWord => (settles_ok _ _).congr fun levels => readPrimary_eq levels _
  | .name _ => (settles_ok _ _).congr fun levels => readPrimary_eq levels _
  | .parentheses inner => by
      simp only [List.append_assoc, List.cons_append, List.nil_append]
      refine Settles.congr (fun levels => readPrimary_eq levels _) ?_
      refine Settles.descend ((inner.settles (by simp [Stops, stopMarks])).bind ?_) ?_
      · simp only [readSymbol_cons, Outcome.ok_bind]
        exact settles_ok _ _
      · exact levelsOf_behind_lt (by decide)
  | .array items => by
      simp only [List.append_assoc, List.cons_append, List.nil_append]
      refine Settles.congr (fun levels => readPrimary_eq levels _) ?_
      refine Settles.descend ((items.settles (by simp [listMarks])).bind (settles_ok _ _)) ?_
      exact levelsOf_behind_lt (by decide)
  | .object entries => by
      simp only [List.append_assoc, List.cons_append, List.nil_append]
      refine Settles.congr (fun levels => readPrimary_eq levels _) ?_
      refine Settles.descend (entries.settles.bind (settles_ok _ _)) ?_
      exact levelsOf_behind_lt (by decide)

theorem Items.settles {close : Symbol} {words rest : List Lexeme} {items : List Expr}
    (closing : close ∈ listMarks) :
    Items words items →
      Settles (levelsOf (words ++ .symbol close :: rest))
        (fun levels => readItems close levels (words ++ .symbol close :: rest)) (items, rest)
  | .none => by
      refine Settles.congr (fun levels => readItems_eq close levels _) ?_
      simp only [List.nil_append, readSymbol_cons]
      exact settles_ok _ _
  | .last item => by
      refine Settles.congr (fun levels => readItems_of_conditional item closing levels _) ?_
      refine (item.settles (stops_of_listMark closing rest)).bind ?_
      simp only [readSymbol_comma_of_listMark closing, readSymbol_cons]
      exact settles_ok _ _
  | .more item items => by
      simp only [List.append_assoc, List.cons_append]
      refine Settles.congr (fun levels => readItems_of_conditional item closing levels _) ?_
      refine (item.settles (by simp [Stops, stopMarks])).bind ?_
      simp only [readSymbol_cons]
      exact ((items.settles closing).mono (levelsOf_behind_le _ _ _)).bind (settles_ok _ _)

theorem Entries.settles {words rest : List Lexeme} {entries : List (String × Expr)} :
    Entries words entries →
      Settles (levelsOf (words ++ .symbol .closeBrace :: rest))
        (fun levels => readEntries levels (words ++ .symbol .closeBrace :: rest)) (entries, rest)
  | .none => by
      refine Settles.congr (fun levels => readEntries_eq levels _) ?_
      simp only [List.nil_append, readSymbol_cons]
      exact settles_ok _ _
  | .last keyed value => by
      simp only [List.cons_append]
      refine Settles.congr (fun levels => readEntries_of_key keyed levels _) ?_
      refine ((value.settles (by simp [Stops, stopMarks])).mono ?_).bind (settles_ok _ _)
      rw [levelsOf_cons, levelsOf_cons]
      omega
  | .more keyed value entries => by
      simp only [List.append_assoc, List.cons_append]
      refine Settles.congr (fun levels => readEntries_of_key keyed levels _) ?_
      refine ((value.settles (by simp [Stops, stopMarks])).mono ?_).bind ?_
      · rw [levelsOf_cons, levelsOf_cons]
        omega
      · simp only [readSymbol_cons]
        refine (entries.settles.mono ?_).bind (settles_ok _ _)
        simp only [levelsOf_append, levelsOf_cons]
        omega

end

/-- With so many levels as they need, and never more than their words can open, the words of an
expression are read as this expression; with fewer they are nested too deeply. -/
theorem Conditional.exists_need {words : List Lexeme} {whole : Expr}
    (derived : Conditional words whole) :
    ∃ need ≤ levelsOf words, ∀ levels, readConditional levels words =
      if need ≤ levels then .ok (whole, []) else .error .tooDeep := by
  have settles := derived.settles (show Stops [] from trivial)
  rwa [List.append_nil] at settles

/-- Words that spell an expression are accepted as this expression if they can open no more levels
than there are. -/
theorem ofWords_of_levelsOf {words : List Lexeme} {whole : Expr} (derived : Conditional words whole)
    (few : levelsOf words ≤ maxDepth) : ofWords words = .ok whole := by
  obtain ⟨need, covered, settled⟩ := derived.exists_need
  rw [ofWords_eq, settled, if_pos (Nat.le_trans covered few)]
  rfl

end Expr

end Stencil
