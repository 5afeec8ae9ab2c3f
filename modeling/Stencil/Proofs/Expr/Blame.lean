import Stencil.Proofs.Expr.Completeness

/-!
Which word a fault of syntax names. What a reader makes of some words is settled by the words up to
the one at which it stops: it has read what stands before this word, or the word cannot come behind
what stands before it. So the fault names the first word that no expression goes on with.
-/

namespace Stencil.Expr

variable {α β : Type}

/-- The words can go on so that they derive a value. -/
def Viable (derives : List Lexeme → α → Prop) (front : List Lexeme) : Prop :=
  ∃ more value, derives (front ++ more) value

/-- The reader stops behind the front of the words, whatever follows the next word: there it is done,
or the next word is at fault although the front can go on. Or there are not enough levels. -/
inductive Halts (derives : List Lexeme → α → Prop)
    (reader : List Lexeme → Except SyntaxFault (α × List Lexeme)) : List Lexeme → Prop
  | done (front rest : List Lexeme) (value : α) :
      (∀ other, other.head? = rest.head? → reader (front ++ other) = .ok (value, other)) →
      Halts derives reader (front ++ rest)
  | blames (front rest : List Lexeme) : Viable derives front →
      (∀ other, other.head? = rest.head? → reader (front ++ other) = .error (.atWord rest)) →
      Halts derives reader (front ++ rest)
  | tooDeep {words : List Lexeme} : reader words = .error .tooDeep → Halts derives reader words

theorem atWord_congr {words other : List Lexeme} (same : other.head? = words.head?) :
    SyntaxFault.atWord other = .atWord words := by
  cases words <;> cases other <;> simp_all [SyntaxFault.atWord]

theorem head?_append_congr (front : List Lexeme) {rest other : List Lexeme}
    (same : other.head? = rest.head?) : (front ++ other).head? = (front ++ rest).head? := by
  rw [List.head?_append, List.head?_append, same]

section Steps

variable {derives : List Lexeme → α → Prop} {words rest : List Lexeme} {word : Lexeme}
  {reader next : List Lexeme → Except SyntaxFault (α × List Lexeme)}

theorem Viable.of_derives {value : α} (derived : derives words value) : Viable derives words :=
  ⟨[], value, by rwa [List.append_nil]⟩

theorem Halts.stop {value : α}
    (stops : ∀ other, other.head? = words.head? → reader other = .ok (value, other)) :
    Halts derives reader words := .done [] words value stops

theorem Halts.stop_word (value : α)
    (stops : ∀ rest, reader (word :: rest) = .ok (value, word :: rest)) :
    Halts derives reader (word :: rest) :=
  .stop fun other same => by
    obtain ⟨behind, rfl⟩ := List.head?_eq_some_iff.mp same
    exact stops behind

theorem Halts.stop_end (value : α) (stops : reader [] = .ok (value, [])) :
    Halts derives reader [] :=
  .stop fun other same => by
    obtain rfl := List.head?_eq_none_iff.mp same
    exact stops

theorem Halts.take (value : α) (takes : ∀ rest, reader (word :: rest) = .ok (value, rest)) :
    Halts derives reader (word :: rest) :=
  .done [word] rest value fun other _ => takes other

theorem Halts.refuse (viable : Viable derives [])
    (refuses : ∀ other, other.head? = words.head? → reader other = .error (.atWord other)) :
    Halts derives reader words :=
  .blames [] words viable fun other same => (refuses other same).trans (by rw [atWord_congr same])

theorem Halts.refuse_word (viable : Viable derives [])
    (refuses : ∀ rest, reader (word :: rest) = .error (.unexpected word)) :
    Halts derives reader (word :: rest) :=
  .refuse viable fun other same => by
    obtain ⟨behind, rfl⟩ := List.head?_eq_some_iff.mp same
    exact refuses behind

theorem Halts.refuse_end (viable : Viable derives [])
    (refuses : reader [] = .error .unexpectedEnd) : Halts derives reader [] :=
  .refuse viable fun other same => by
    obtain rfl := List.head?_eq_none_iff.mp same
    exact refuses

theorem Halts.congr (same : ∀ other, other.head? = words.head? → reader other = next other)
    (halts : Halts derives next words) : Halts derives reader words := by
  cases halts with
  | done front rest value settled =>
      refine .done front rest value fun other alike => ?_
      rw [same _ (head?_append_congr front alike), settled other alike]
  | blames front rest viable settled =>
      refine .blames front rest viable fun other alike => ?_
      rw [same _ (head?_append_congr front alike), settled other alike]
  | tooDeep deep => exact .tooDeep ((same words rfl).trans deep)

/-- The reader takes the first word and leaves the rest to the next one. -/
theorem Halts.consume (same : ∀ rest, reader (word :: rest) = next rest)
    (halts : Halts (fun back => derives (word :: back)) next rest) :
    Halts derives reader (word :: rest) := by
  cases halts with
  | done front behind value settled =>
      exact .done (word :: front) behind value fun other alike =>
        (same _).trans (settled other alike)
  | blames front behind viable settled =>
      exact .blames (word :: front) behind viable fun other alike =>
        (same _).trans (settled other alike)
  | tooDeep deep => exact .tooDeep ((same _).trans deep)

theorem Halts.descend {levels : Nat}
    {next : Nat → List Lexeme → Except SyntaxFault (α × List Lexeme)}
    (halts : ∀ fewer < levels, Halts derives (next fewer) words) :
    Halts derives (fun words => Expr.descend levels fun levels => next levels words) words := by
  cases levels with
  | zero => exact .tooDeep rfl
  | succ fewer => exact (halts fewer (Nat.lt_succ_self fewer)).congr fun _ _ => rfl

theorem readSymbol_of_head {symbol : Symbol} (other : words.head? ≠ some (.symbol symbol)) :
    readSymbol symbol words = .error (.atWord words) := by
  cases words with
  | nil => rfl
  | cons word rest =>
      cases word with
      | symbol mark =>
          have apart : mark ≠ symbol := fun same => other (congrArg (some <| Lexeme.symbol ·) same)
          rw [readSymbol, takeSymbol, if_neg apart]
          rfl
      | _ => rfl

theorem Halts.symbol {symbol : Symbol} (viable : Viable derives [])
    (halts : ∀ rest, words = .symbol symbol :: rest →
      Halts (fun back => derives (.symbol symbol :: back)) next rest) :
    Halts derives (fun words => readSymbol symbol words >>= next) words := by
  by_cases expected : words.head? = some (.symbol symbol)
  · obtain ⟨rest, rfl⟩ := List.head?_eq_some_iff.mp expected
    refine .consume (fun rest => ?_) (halts rest rfl)
    rw [readSymbol_cons, Outcome.ok_bind]
  · refine .refuse viable fun other same => ?_
    rw [readSymbol_of_head (same ▸ expected), Outcome.error_bind]

end Steps

theorem Viable.through {inner : List Lexeme → α → Prop} {outer : List Lexeme → β → Prop}
    {front : List Lexeme} (closes : ∀ words value, inner words value → Viable outer words)
    (viable : Viable inner front) : Viable outer front := by
  obtain ⟨more, value, derived⟩ := viable
  obtain ⟨further, result, complete⟩ := closes _ value derived
  exact ⟨more ++ further, result, by rwa [← List.append_assoc]⟩

theorem Halts.widen {inner outer : List Lexeme → α → Prop} {words : List Lexeme}
    {reader : List Lexeme → Except SyntaxFault (α × List Lexeme)}
    (closes : ∀ words value, inner words value → Viable outer words)
    (halts : Halts inner reader words) : Halts outer reader words := by
  cases halts with
  | done front rest value settled => exact .done front rest value settled
  | blames front rest viable settled => exact .blames front rest (viable.through closes) settled
  | tooDeep deep => exact .tooDeep deep

/-- One reader after another: the second one goes on behind what the first one has read. -/
theorem Halts.bind {inner : List Lexeme → α → Prop} {outer : List Lexeme → β → Prop}
    {first : List Lexeme → Except SyntaxFault (α × List Lexeme)}
    {next : α × List Lexeme → Except SyntaxFault (β × List Lexeme)} {words : List Lexeme}
    (takes : Takes inner first) (begun : Halts inner first words)
    (closes : ∀ front value, inner front value → Viable outer front)
    (goesOn : ∀ front value rest, words = front ++ rest → inner front value →
      Halts (fun back => outer (front ++ back)) (fun rest => next (value, rest)) rest) :
    Halts outer (fun words => first words >>= next) words := by
  cases begun with
  | done front rest value settled =>
      obtain ⟨read, same, derived⟩ := takes _ _ _ (settled rest rfl)
      obtain rfl := List.append_cancel_right same
      cases goesOn front value rest rfl derived with
      | done middle rest result finished =>
          rw [← List.append_assoc]
          refine .done _ rest result fun other alike => ?_
          rw [List.append_assoc, settled _ (head?_append_congr middle alike), Outcome.ok_bind,
            finished other alike]
      | blames middle rest viable failed =>
          rw [← List.append_assoc]
          refine .blames _ rest ?_ fun other alike => ?_
          · obtain ⟨more, result, complete⟩ := viable
            exact ⟨more, result, by rwa [List.append_assoc]⟩
          · rw [List.append_assoc, settled _ (head?_append_congr middle alike), Outcome.ok_bind,
              failed other alike]
      | tooDeep deep =>
          refine .tooDeep ?_
          rw [settled rest rfl, Outcome.ok_bind, deep]
  | blames front rest viable settled =>
      refine .blames front rest (viable.through closes) fun other alike => ?_
      rw [settled other alike, Outcome.error_bind]
  | tooDeep deep =>
      refine .tooDeep ?_
      rw [deep, Outcome.error_bind]

def readBehind (close : Symbol)
    (more : List Lexeme → Except SyntaxFault (List α × List Lexeme)) (item : α)
    (words : List Lexeme) : Except SyntaxFault (List α × List Lexeme) :=
  match readSymbol .comma words with
  | .ok rest => do
      let (items, rest) ← more rest
      return (item :: items, rest)
  | .error _ => do
      let rest ← readSymbol close words
      return ([item], rest)

theorem halts_behind {inner outer : List Lexeme → List α → Prop} {close : Symbol}
    {more : List Lexeme → Except SyntaxFault (List α × List Lexeme)} {item : α}
    {words : List Lexeme} (takes : Takes inner more) (ended : outer [.symbol close] [item])
    (further : ∀ words items, inner words items → outer (.symbol .comma :: words) (item :: items))
    (halts : ∀ rest, words = .symbol .comma :: rest → Halts inner more rest) :
    Halts outer (readBehind close more item) words := by
  by_cases comma : words.head? = some (.symbol .comma)
  · obtain ⟨rest, rfl⟩ := List.head?_eq_some_iff.mp comma
    refine .consume (fun rest => by rw [readBehind, readSymbol_cons]) ?_
    refine .bind takes (halts rest rfl) ?_ ?_
    · intro front items derived
      exact .of_derives (further front items derived)
    · intro front items behind same derived
      exact .stop fun other same => rfl
  · refine .congr (fun other same => by rw [readBehind, readSymbol_of_head (same ▸ comma)]) ?_
    exact .symbol ⟨[.symbol close], [item], ended⟩ fun rest _ => .stop fun other same => rfl

theorem halts_member (words : List Lexeme) :
    Halts (fun front name => ∃ word, front = [word] ∧ Member word name) readMember words := by
  have viable : Viable (fun front name => ∃ word, front = [word] ∧ Member word name) [] :=
    ⟨[.name ""], "", .name "", rfl, .name ""⟩
  cases words with
  | nil => exact .refuse_end viable rfl
  | cons word rest =>
      cases word with
      | name written => exact .take _ fun rest => rfl
      | keyword word => exact .take _ fun rest => rfl
      | _ => exact .refuse_word viable fun rest => rfl

theorem halts_key (words : List Lexeme) :
    Halts (fun front key => ∃ word, front = [word] ∧ Key word key) readKey words := by
  have viable : Viable (fun front key => ∃ word, front = [word] ∧ Key word key) [] :=
    ⟨[.name ""], "", .name "", rfl, .name ""⟩
  cases words with
  | nil => exact .refuse_end viable rfl
  | cons word rest =>
      cases word with
      | name written => exact .take _ fun rest => rfl
      | text content => exact .take _ fun rest => rfl
      | number value => exact .take _ fun rest => rfl
      | _ => exact .refuse_word viable fun rest => rfl

structure Halting (levels : Nat) : Prop where
  conditional : ∀ words, Halts Conditional (readConditional levels) words
  binary : ∀ level words, Halts (Binary level) (readBinary level levels) words
  chain : ∀ level before left, Binary (level + 1) before left → ∀ words,
    Halts (fun front => Binary (level + 1) (before ++ front)) (readChain (level + 1) levels left)
      words
  unary : ∀ words, Halts Unary (readUnary levels) words
  suffixes : ∀ before subject, Postfix before subject → ∀ words,
    Halts (fun front => Postfix (before ++ front)) (readSuffixes levels subject) words
  items : ∀ close words, Halts (fun front items => ∃ words,
    front = words ++ [.symbol close] ∧ Items words items) (readItems close levels) words
  entries : ∀ words, Halts (fun front entries => ∃ words,
    front = words ++ [.symbol .closeBrace] ∧ Entries words entries) (readEntries levels) words

theorem viable_primary : Viable Primary [] := ⟨[.keyword .nullWord], .null, .nullWord⟩

theorem conditional_null : Conditional [.keyword .nullWord] .null :=
  (Postfix.primary .nullWord).conditional

section Step

variable {levels : Nat} (below : ∀ fewer < levels, Halting fewer)

include below

theorem halts_primary (words : List Lexeme) : Halts Primary (readPrimary levels) words := by
  cases words with
  | nil => exact .refuse_end viable_primary (readPrimary_eq levels [])
  | cons word rest =>
      cases word with
      | number value => exact .take _ fun rest => readPrimary_eq levels _
      | text content => exact .take _ fun rest => readPrimary_eq levels _
      | name written => exact .take _ fun rest => readPrimary_eq levels _
      | keyword word => cases word <;> exact .take _ fun rest => readPrimary_eq levels _
      | symbol mark =>
          cases mark with
          | openParen =>
              refine .consume (fun rest => readPrimary_eq levels _) ?_
              refine .descend fun fewer less => ?_
              refine .bind (sound fewer).conditional ((below fewer less).conditional rest) ?_ ?_
              · intro front whole derived
                exact ⟨[.symbol .closeParen], whole, .parentheses derived⟩
              · intro front whole behind same derived
                refine .symbol ?_ fun rest closed => ?_
                · exact ⟨[.symbol .closeParen], whole, .parentheses derived⟩
                · exact .stop fun other same => rfl
          | openBracket =>
              refine .consume (fun rest => readPrimary_eq levels _) ?_
              refine .descend fun fewer less => ?_
              refine .bind ((sound fewer).items _) ((below fewer less).items _ rest) ?_ ?_
              · rintro front items ⟨words, rfl, derived⟩
                exact .of_derives (.array derived)
              · intro front items behind same derived
                exact .stop fun other same => rfl
          | openBrace =>
              refine .consume (fun rest => readPrimary_eq levels _) ?_
              refine .descend fun fewer less => ?_
              refine .bind (sound fewer).entries ((below fewer less).entries rest) ?_ ?_
              · rintro front entries ⟨words, rfl, derived⟩
                exact .of_derives (.object derived)
              · intro front entries behind same derived
                exact .stop fun other same => rfl
          | _ => exact .refuse_word viable_primary fun rest => readPrimary_eq levels _

omit below in
theorem takes_arguments (levels : Nat) :
    Takes (fun front items => ∃ words, front = words ++ [.symbol .closeParen] ∧ Items words items)
      (fun words => descend levels fun levels => readItems .closeParen levels words) := by
  intro words items rest read
  obtain ⟨fewer, rfl, inside⟩ := descend_eq_ok_iff.mp read
  exact (sound fewer).items _ _ _ _ inside

theorem halts_arguments (fewer : Nat) (less : fewer < levels) (words : List Lexeme) :
    Halts (fun front items => ∃ words, front = words ++ [.symbol .closeParen] ∧ Items words items)
      (fun words => descend fewer fun levels => readItems .closeParen levels words) words :=
  .descend fun least lesser => (below least (lesser.trans less)).items _ words

theorem halts_suffixes {before : List Lexeme} {subject : Expr} (derived : Postfix before subject)
    (words : List Lexeme) :
    Halts (fun front => Postfix (before ++ front)) (readSuffixes levels subject) words := by
  cases words with
  | nil => exact .stop_end _ (readSuffixes_eq levels subject [])
  | cons word rest =>
      cases word with
      | symbol mark =>
          cases mark with
          | dot =>
              refine .consume (fun rest => readSuffixes_eq levels subject _) ?_
              refine .descend fun fewer less => ?_
              refine .bind takes_member (halts_member rest) ?_ ?_
              · rintro _ name ⟨word, rfl, named⟩
                exact .of_derives (derived.member named)
              · rintro _ name behind same ⟨word, rfl, named⟩
                simpa using (below fewer less).suffixes _ _ (derived.member named) behind
          | openBracket =>
              refine .consume (fun rest => readSuffixes_eq levels subject _) ?_
              refine .descend fun fewer less => ?_
              refine .bind (sound fewer).conditional ((below fewer less).conditional rest) ?_ ?_
              · intro front position inner
                exact ⟨[.symbol .closeBracket], _, derived.index inner⟩
              · intro front position behind same inner
                refine .symbol ?_ fun rest closed => ?_
                · exact ⟨[.symbol .closeBracket], _, by simpa using derived.index inner⟩
                · simpa using (below fewer less).suffixes _ _ (derived.index inner) rest
          | openParen =>
              refine .consume (fun rest => readSuffixes_eq levels subject _) ?_
              refine .descend fun fewer less => ?_
              refine .bind (takes_arguments fewer) (halts_arguments below fewer less rest) ?_ ?_
              · rintro _ arguments ⟨words, rfl, inner⟩
                exact .of_derives (derived.call inner)
              · rintro _ arguments behind same ⟨words, rfl, inner⟩
                simpa using (below fewer less).suffixes _ _ (derived.call inner) behind
          | _ => exact .stop_word _ fun rest => readSuffixes_eq levels subject _
      | _ => exact .stop_word _ fun rest => readSuffixes_eq levels subject _

theorem halts_postfixed (words : List Lexeme) : Halts Postfix (readPostfix levels) words := by
  refine .congr (fun other _ => readPostfix_eq levels other) ?_
  refine .bind (takes_primary fun fewer _ => sound fewer) (halts_primary below words) ?_ ?_
  · intro front whole derived
    exact .of_derives (.primary derived)
  · intro front whole rest same derived
    exact halts_suffixes below (.primary derived) rest

theorem halts_unary (words : List Lexeme) : Halts Unary (readUnary levels) words := by
  have postfixed (same : ∀ other, other.head? = words.head? →
      readUnary levels other = readPostfix levels other) :
      Halts Unary (readUnary levels) words :=
    .congr same ((halts_postfixed below words).widen fun _ _ derived =>
      .of_derives (.postfixed derived))
  cases words with
  | nil =>
      refine postfixed fun other same => ?_
      obtain rfl := List.head?_eq_none_iff.mp same
      exact readUnary_eq levels []
  | cons word rest =>
      by_cases prefixed : ∃ operator : UnaryOp, word = .symbol operator.symbol
      · obtain ⟨operator, rfl⟩ := prefixed
        refine .consume (fun rest => readUnary_operator operator levels rest) ?_
        refine .descend fun fewer less => ?_
        refine .bind (sound fewer).unary ((below fewer less).unary rest) ?_ ?_
        · intro front operand derived
          exact .of_derives (.operation operator derived)
        · intro front operand behind same derived
          exact .stop fun other same => rfl
      · refine postfixed fun other same => ?_
        obtain ⟨behind, rfl⟩ := List.head?_eq_some_iff.mp same
        rw [readUnary_eq]
        split
        · rename_i mark behind word_eq
          obtain ⟨rfl, rfl⟩ := List.cons.inj word_eq
          split
          · rfl
          · rename_i operator found
            obtain rfl := UnaryOp.ofSymbol?_eq_some_iff.mp found
            exact absurd ⟨operator, rfl⟩ prefixed
        · rfl

theorem halts_chain {level : Nat} {before : List Lexeme} {left : Expr}
    (derived : Binary (level + 1) before left) (words : List Lexeme) :
    Halts (fun front => Binary (level + 1) (before ++ front)) (readChain (level + 1) levels left)
      words := by
  cases words with
  | nil => exact .stop_end _ (readChain_eq _ levels left [])
  | cons word rest =>
      cases word with
      | symbol mark =>
          cases found : BinaryOp.ofSymbol? (level + 1) mark with
          | none =>
              refine .stop_word left fun rest => ?_
              rw [readChain_eq]
              simp only [found]
          | some operator =>
              obtain ⟨tight, rfl⟩ := BinaryOp.ofSymbol?_eq_some_iff.mp found
              refine .consume (fun rest => readChain_operator operator tight levels left rest) ?_
              refine .descend fun fewer less => ?_
              refine .bind ((sound fewer).binary level) ((below fewer less).binary level rest) ?_ ?_
              · intro front right inner
                exact .of_derives (.operation operator tight derived inner)
              · intro front right behind same inner
                have grown := Binary.operation operator tight derived inner
                simpa using (below fewer less).chain _ _ _ grown behind
      | _ => exact .stop_word _ fun rest => readChain_eq _ levels left _

theorem halts_binary (level : Nat) (words : List Lexeme) :
    Halts (Binary level) (readBinary level levels) words := by
  induction level generalizing words with
  | zero =>
      refine .congr (fun other _ => readBinary_zero levels other) ?_
      exact (halts_unary below words).widen fun _ _ derived => .of_derives (.unary derived)
  | succ level ih =>
      refine .congr (fun other _ => readBinary_succ level levels other) ?_
      refine .bind ((sound levels).binary level) (ih words) ?_ ?_
      · intro front left derived
        exact .of_derives (.operand derived)
      · intro front left rest same derived
        exact halts_chain below (.operand derived) rest

theorem halts_conditional (words : List Lexeme) :
    Halts Conditional (readConditional levels) words := by
  refine .congr (fun other _ => readConditional_eq levels other) ?_
  refine .bind ((sound levels).binary 6) (halts_binary below 6 words) ?_ ?_
  · intro front condition derived
    exact .of_derives (.plain derived)
  · intro before condition rest same derived
    cases rest with
    | nil => exact .stop_end condition rfl
    | cons word rest =>
        by_cases question : word = .symbol .question
        · subst question
          refine .consume (fun rest => rfl) ?_
          refine .descend fun fewer less => ?_
          refine .bind (sound fewer).conditional ((below fewer less).conditional rest) ?_ ?_
          · intro front consequent chosen
            refine ⟨[.symbol .colon, .keyword .nullWord], .conditional condition consequent .null, ?_⟩
            simpa using Conditional.choice derived chosen conditional_null
          · intro front consequent behind same chosen
            refine .symbol ?_ fun rest colon => ?_
            · refine ⟨[.symbol .colon, .keyword .nullWord],
                .conditional condition consequent .null, ?_⟩
              simpa using Conditional.choice derived chosen conditional_null
            · refine .bind (sound fewer).conditional ((below fewer less).conditional rest) ?_ ?_
              · intro front alternative other
                refine ⟨[], .conditional condition consequent alternative, ?_⟩
                simpa using Conditional.choice derived chosen other
              · intro front alternative behind same other
                exact .stop fun other same => rfl
        · refine .stop_word condition fun rest => ?_
          cases word with
          | symbol mark =>
              cases mark with
              | question => exact absurd rfl question
              | _ => rfl
          | _ => rfl

omit below in
theorem readItems_of_head {close : Symbol} {words : List Lexeme}
    (other : words.head? ≠ some (.symbol close)) :
    readItems close levels words =
      readConditional levels words >>= fun (item, rest) =>
        readBehind close (readItems close levels) item rest := by
  have unfolded := readItems_eq close levels words
  rw [readSymbol_of_head other] at unfolded
  exact unfolded

omit below in
theorem readEntries_of_head {words : List Lexeme}
    (other : words.head? ≠ some (.symbol .closeBrace)) :
    readEntries levels words =
      readKey words >>= fun (key, rest) =>
        readSymbol .colon rest >>= fun rest =>
          readConditional levels rest >>= fun (value, rest) =>
            readBehind .closeBrace (readEntries levels) (key, value) rest := by
  have unfolded := readEntries_eq levels words
  rw [readSymbol_of_head other] at unfolded
  exact unfolded

theorem halts_items (close : Symbol) (words : List Lexeme) :
    Halts (fun front items => ∃ words, front = words ++ [.symbol close] ∧ Items words items)
      (readItems close levels) words := by
  -- The list ends with the words, so the induction is on how many there are.
  induction count : words.length using Nat.strong_induction_on generalizing words with
  | h size ih =>
      by_cases closed : words.head? = some (.symbol close)
      · obtain ⟨rest, rfl⟩ := List.head?_eq_some_iff.mp closed
        refine .take [] fun rest => ?_
        rw [readItems_eq, readSymbol_cons]
      · refine .congr (fun other same => readItems_of_head (same ▸ closed)) ?_
        refine .bind (sound levels).conditional (halts_conditional below words) ?_ ?_
        · intro front item derived
          exact ⟨[.symbol close], [item], front, rfl, .last derived⟩
        · intro front item rest same derived
          refine halts_behind ((sound levels).items close) ⟨front, rfl, .last derived⟩ ?_ ?_
          · rintro _ items ⟨inside, rfl, others⟩
            exact ⟨front ++ .symbol .comma :: inside, by simp, .more derived others⟩
          · rintro behind rfl
            refine ih behind.length ?_ behind rfl
            rw [← count, same, List.length_append, List.length_cons]
            omega

theorem halts_entries (words : List Lexeme) :
    Halts (fun front entries => ∃ words,
      front = words ++ [.symbol .closeBrace] ∧ Entries words entries) (readEntries levels) words := by
  induction count : words.length using Nat.strong_induction_on generalizing words with
  | h size ih =>
      by_cases closed : words.head? = some (.symbol .closeBrace)
      · obtain ⟨rest, rfl⟩ := List.head?_eq_some_iff.mp closed
        refine .take [] fun rest => ?_
        rw [readEntries_eq, readSymbol_cons]
      · refine .congr (fun other same => readEntries_of_head (same ▸ closed)) ?_
        refine .bind takes_key (halts_key words) ?_ ?_
        · rintro _ key ⟨word, rfl, keyed⟩
          refine ⟨[.symbol .colon, .keyword .nullWord, .symbol .closeBrace], [(key, .null)], ?_⟩
          exact ⟨_, rfl, .last keyed conditional_null⟩
        · rintro _ key behind same ⟨word, rfl, keyed⟩
          refine .symbol ?_ fun rest colon => ?_
          · refine ⟨[.symbol .colon, .keyword .nullWord, .symbol .closeBrace], [(key, .null)], ?_⟩
            exact ⟨_, rfl, .last keyed conditional_null⟩
          · refine .bind (sound levels).conditional (halts_conditional below rest) ?_ ?_
            · intro front value derived
              refine ⟨[.symbol .closeBrace], [(key, value)], ?_⟩
              exact ⟨_, rfl, .last keyed derived⟩
            · intro front value rest valued derived
              refine halts_behind (sound levels).entries ⟨_, rfl, .last keyed derived⟩ ?_ ?_
              · rintro _ entries ⟨inside, rfl, others⟩
                exact ⟨_, by simp, .more keyed derived others⟩
              · rintro further rfl
                refine ih further.length ?_ further rfl
                simp only [← count, same, colon, valued, List.length_append, List.length_cons]
                omega

end Step

theorem halting (levels : Nat) : Halting levels := by
  induction levels using Nat.strong_induction_on with
  | h levels below =>
      exact {
        conditional := halts_conditional below
        binary := halts_binary below
        chain := fun _ _ _ derived => halts_chain below derived
        unary := halts_unary below
        suffixes := fun _ _ derived => halts_suffixes below derived
        items := halts_items below
        entries := halts_entries below }

theorem readConditional_of_derived {words : List Lexeme} {whole : Expr}
    (derived : Conditional words whole) (levels : Nat) :
    readConditional levels words = .ok (whole, []) ∨
      readConditional levels words = .error .tooDeep := by
  obtain ⟨need, _, settled⟩ := derived.exists_need
  by_cases enough : need ≤ levels
  · exact .inl (by rw [settled, if_pos enough])
  · exact .inr (by rw [settled, if_neg enough])

theorem not_viable_of_read (levels : Nat) {front : List Lexeme} {word : Lexeme}
    (unread : ∀ more whole, ¬ (readConditional levels (front ++ word :: more) = .ok (whole, []) ∨
      readConditional levels (front ++ word :: more) = .error .tooDeep)) :
    ¬ Viable Conditional (front ++ [word]) := by
  rintro ⟨more, whole, derived⟩
  rw [List.append_assoc] at derived
  exact unread more whole (readConditional_of_derived derived levels)

/-- A fault other than too much nesting names the first word at which no expression goes on, and
what stands before this word can go on otherwise. It is the end of the words that is at fault if they
can go on, but are not whole yet. -/
theorem ofWords_fault_leftmost {words : List Lexeme} {fault : SyntaxFault}
    (failed : ofWords words = .error fault) (shallow : fault ≠ .tooDeep) :
    (∃ before word after, fault = .unexpected word ∧
      fault.message = "Unexpected token '" ++ word.spelling ++ "'" ∧
      words = before ++ [word] ++ after ∧
      (∃ more whole, Conditional (before ++ more) whole) ∧
      ¬ ∃ more whole, Conditional (before ++ [word] ++ more) whole) ∨
    (fault = .unexpectedEnd ∧ fault.message = "Unexpected end of input" ∧
      (∃ more whole, more ≠ [] ∧ Conditional (words ++ more) whole) ∧
      ¬ ∃ whole, Conditional words whole) := by
  rw [ofWords_eq] at failed
  cases (halting maxDepth).conditional words with
  | tooDeep deep =>
      rw [deep] at failed
      exact absurd (Except.error.inj failed).symm shallow
  | done front rest value settled =>
      rw [settled rest rfl, Outcome.ok_bind] at failed
      cases rest with
      | nil => cases failed
      | cons word after =>
          obtain rfl := Except.error.inj failed
          obtain ⟨read, same, derived⟩ := (sound maxDepth).conditional _ _ _ (settled _ rfl)
          obtain rfl := List.append_cancel_right same
          refine .inl ⟨front, word, after, rfl, rfl, by simp, Viable.of_derives derived, ?_⟩
          refine not_viable_of_read maxDepth fun more whole => ?_
          simp [settled (word :: more) rfl]
  | blames front rest viable settled =>
      rw [settled rest rfl, Outcome.error_bind] at failed
      obtain rfl := Except.error.inj failed
      cases rest with
      | cons word after =>
          refine .inl ⟨front, word, after, rfl, rfl, by simp, viable, ?_⟩
          refine not_viable_of_read maxDepth fun more whole => ?_
          simp [settled (word :: more) rfl, SyntaxFault.atWord]
      | nil =>
          rw [List.append_nil]
          have unfinished : ¬ ∃ whole, Conditional front whole := by
            rintro ⟨whole, derived⟩
            have stopped := settled [] rfl
            rw [List.append_nil] at stopped
            have finished := readConditional_of_derived derived maxDepth
            simp [stopped, SyntaxFault.atWord] at finished
          obtain ⟨more, whole, complete⟩ := viable
          refine .inr ⟨rfl, rfl, ⟨more, whole, ?_, complete⟩, unfinished⟩
          rintro rfl
          exact unfinished ⟨whole, by rwa [List.append_nil] at complete⟩

/-- The words of `f(a ? b, c)`. -/
def choiceCutShort : List Lexeme :=
  [.name "f", .symbol .openParen, .name "a", .symbol .question, .name "b", .symbol .comma,
    .name "c", .symbol .closeParen]

theorem ofWords_choiceCutShort :
    ofWords choiceCutShort = .error (.unexpected (.symbol .comma)) ∧
      ∃ before after, choiceCutShort = before ++ [.symbol .comma] ++ after ∧
        (∃ more whole, Conditional (before ++ more) whole) ∧
        ¬ ∃ more whole, Conditional (before ++ [.symbol .comma] ++ more) whole := by
  have failed : ofWords choiceCutShort = .error (.unexpected (.symbol .comma)) := by cbv
  refine ⟨failed, ?_⟩
  rcases ofWords_fault_leftmost failed (by simp) with
    ⟨before, word, after, named, _, parts, viable, leftmost⟩ | ⟨ended, _⟩
  · cases named
    exact ⟨before, after, parts, viable, leftmost⟩
  · cases ended

end Stencil.Expr
