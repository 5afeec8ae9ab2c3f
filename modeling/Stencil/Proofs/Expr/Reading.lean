import Stencil.Expr.Grammar
import Stencil.Proofs.Outcome

/-!
The parser of expressions without the bounds that its results carry. Each reader has one equation,
in terms of the readers it calls; proofs about the parser start from these equations.
-/

namespace Stencil.Expr

variable {α : Type} {bound : Nat}

def shed (parsed : Except SyntaxFault (Parsed α bound)) :
    Except SyntaxFault (α × List Lexeme) :=
  parsed.map fun result => (result.value, result.rest)

def descend (levels : Nat) (next : Nat → Except SyntaxFault α) : Except SyntaxFault α :=
  match levels with
  | 0 => .error .tooDeep
  | levels + 1 => next levels

def readSymbol (symbol : Symbol) (words : List Lexeme) : Except SyntaxFault (List Lexeme) :=
  (takeSymbol symbol words).map fun result => result.rest

def readMember (words : List Lexeme) : Except SyntaxFault (String × List Lexeme) :=
  shed (takeMember words)

def readKey (words : List Lexeme) : Except SyntaxFault (String × List Lexeme) :=
  shed (takeKey words)

def readConditional (levels : Nat) (words : List Lexeme) :
    Except SyntaxFault (Expr × List Lexeme) :=
  shed (parseConditional levels words)

def readBinary (level levels : Nat) (words : List Lexeme) :
    Except SyntaxFault (Expr × List Lexeme) :=
  shed (parseBinary level levels words)

def readChain (level levels : Nat) (left : Expr) (words : List Lexeme) :
    Except SyntaxFault (Expr × List Lexeme) :=
  shed (parseChain level levels left words)

def readUnary (levels : Nat) (words : List Lexeme) : Except SyntaxFault (Expr × List Lexeme) :=
  shed (parseUnary levels words)

def readPostfix (levels : Nat) (words : List Lexeme) : Except SyntaxFault (Expr × List Lexeme) :=
  shed (parsePostfix levels words)

def readSuffixes (levels : Nat) (subject : Expr) (words : List Lexeme) :
    Except SyntaxFault (Expr × List Lexeme) :=
  shed (parseSuffixes levels subject words)

def readPrimary (levels : Nat) (words : List Lexeme) : Except SyntaxFault (Expr × List Lexeme) :=
  shed (parsePrimary levels words)

def readItems (close : Symbol) (levels : Nat) (words : List Lexeme) :
    Except SyntaxFault (List Expr × List Lexeme) :=
  shed (parseItems close levels words)

def readEntries (levels : Nat) (words : List Lexeme) :
    Except SyntaxFault (List (String × Expr) × List Lexeme) :=
  shed (parseEntries levels words)

@[simp] theorem descend_zero (next : Nat → Except SyntaxFault α) :
    descend 0 next = .error .tooDeep := rfl

@[simp] theorem descend_succ (levels : Nat) (next : Nat → Except SyntaxFault α) :
    descend (levels + 1) next = next levels := rfl

theorem descend_eq_ok_iff {levels : Nat} {next : Nat → Except SyntaxFault α} {value : α} :
    descend levels next = .ok value ↔ ∃ fewer, levels = fewer + 1 ∧ next fewer = .ok value := by
  cases levels with
  | zero => simp
  | succ levels => simp

theorem readSymbol_eq_ok_iff {symbol : Symbol} {words rest : List Lexeme} :
    readSymbol symbol words = .ok rest ↔ words = .symbol symbol :: rest := by
  rw [readSymbol, takeSymbol.eq_def]
  split
  · rename_i mark behind
    by_cases same : mark = symbol
    · simp [same]
    · simp [same]
  · rename_i noSymbol
    simp only [Outcome.map_error, reduceCtorEq, false_iff]
    intro whole
    exact noSymbol _ _ whole

@[simp] theorem readSymbol_cons (symbol : Symbol) (rest : List Lexeme) :
    readSymbol symbol (.symbol symbol :: rest) = .ok rest :=
  readSymbol_eq_ok_iff.mpr rfl

theorem length_of_shed {parsed : Except SyntaxFault (Parsed α bound)} {value : α}
    {rest : List Lexeme} (read : shed parsed = .ok (value, rest)) : rest.length < bound := by
  obtain ⟨result, _, same⟩ := Outcome.map_eq_ok_iff.mp read
  obtain ⟨_, rfl⟩ := Prod.mk.inj same
  exact result.within

theorem shed_bind {β : Type} {wide : Nat} {step : Except SyntaxFault (Parsed α bound)}
    {next : Parsed α bound → Except SyntaxFault (Parsed β wide)}
    {reader : α × List Lexeme → Except SyntaxFault (β × List Lexeme)}
    (same : ∀ value rest within, shed (next ⟨value, rest, within⟩) = reader (value, rest)) :
    shed (step >>= next) = shed step >>= reader := by
  cases step with
  | error fault => rfl
  | ok result => exact same result.value result.rest result.within

theorem symbol_bind {β : Type} {wide : Nat} {symbol : Symbol} {words : List Lexeme}
    {next : Parsed Unit words.length → Except SyntaxFault (Parsed β wide)}
    {reader : List Lexeme → Except SyntaxFault (β × List Lexeme)}
    (same : ∀ rest within, shed (next ⟨(), rest, within⟩) = reader rest) :
    shed (takeSymbol symbol words >>= next) = readSymbol symbol words >>= reader := by
  rw [readSymbol]
  cases takeSymbol symbol words with
  | error fault => rfl
  | ok result => exact same result.rest result.within

theorem readConditional_eq (levels : Nat) (words : List Lexeme) :
    readConditional levels words = do
      let (condition, rest) ← readBinary 6 levels words
      match rest with
      | .symbol .question :: rest =>
          descend levels fun levels => do
            let (consequent, rest) ← readConditional levels rest
            let rest ← readSymbol .colon rest
            let (alternative, rest) ← readConditional levels rest
            return (.conditional condition consequent alternative, rest)
      | rest => return (condition, rest) := by
  rw [readConditional, parseConditional]
  refine shed_bind fun condition rest within => ?_
  dsimp only
  split
  · cases levels with
    | zero => rfl
    | succ levels =>
        refine shed_bind fun consequent rest within => ?_
        refine symbol_bind fun rest within => ?_
        exact shed_bind fun alternative rest within => rfl
  · rename_i plain
    split
    · exact (plain _ _ rfl HEq.rfl).elim
    · rfl

theorem readBinary_zero (levels : Nat) (words : List Lexeme) :
    readBinary 0 levels words = readUnary levels words := by
  rw [readBinary, parseBinary, readUnary]

theorem readBinary_succ (level levels : Nat) (words : List Lexeme) :
    readBinary (level + 1) levels words =
      readBinary level levels words >>= fun (first, rest) =>
        readChain (level + 1) levels first rest := by
  rw [readBinary, parseBinary.eq_def]
  refine shed_bind fun first rest within => ?_
  dsimp only
  rw [readChain]
  cases parseChain (level + 1) levels first rest <;> rfl

theorem readChain_eq (level levels : Nat) (left : Expr) (words : List Lexeme) :
    readChain level levels left words =
      match words with
      | .symbol mark :: rest =>
          match BinaryOp.ofSymbol? level mark with
          | none => .ok (left, .symbol mark :: rest)
          | some operator =>
              descend levels fun levels => do
                let (right, rest) ← readBinary (level - 1) levels rest
                readChain level levels (.binary operator left right) rest
      | words => .ok (left, words) := by
  rw [readChain, parseChain.eq_def]
  cases words with
  | nil => rfl
  | cons word rest =>
      cases word with
      | symbol mark =>
          dsimp only
          cases BinaryOp.ofSymbol? level mark with
          | none => rfl
          | some operator =>
              cases levels with
              | zero => rfl
              | succ levels =>
                  refine shed_bind fun right rest within => ?_
                  dsimp only
                  rw [readChain]
                  cases parseChain level levels _ rest <;> rfl
      | _ => rfl

theorem readUnary_eq (levels : Nat) (words : List Lexeme) :
    readUnary levels words =
      match words with
      | .symbol mark :: rest =>
          match UnaryOp.ofSymbol? mark with
          | none => readPostfix levels (.symbol mark :: rest)
          | some operator =>
              descend levels fun levels => do
                let (operand, rest) ← readUnary levels rest
                return (.unary operator operand, rest)
      | words => readPostfix levels words := by
  rw [readUnary, parseUnary.eq_def]
  cases words with
  | nil => rfl
  | cons word rest =>
      cases word with
      | symbol mark =>
          dsimp only
          cases UnaryOp.ofSymbol? mark with
          | none => rfl
          | some operator =>
              cases levels with
              | zero => rfl
              | succ levels => exact shed_bind fun operand rest within => rfl
      | _ => rfl

theorem readPostfix_eq (levels : Nat) (words : List Lexeme) :
    readPostfix levels words =
      readPrimary levels words >>= fun (subject, rest) => readSuffixes levels subject rest := by
  rw [readPostfix, parsePostfix]
  refine shed_bind fun subject rest within => ?_
  dsimp only
  rw [readSuffixes]
  cases parseSuffixes levels subject rest <;> rfl

theorem readSuffixes_eq (levels : Nat) (subject : Expr) (words : List Lexeme) :
    readSuffixes levels subject words =
      match words with
      | .symbol .dot :: rest =>
          descend levels fun levels => do
            let (member, rest) ← readMember rest
            readSuffixes levels (.attribute subject member) rest
      | .symbol .openBracket :: rest =>
          descend levels fun levels => do
            let (position, rest) ← readConditional levels rest
            let rest ← readSymbol .closeBracket rest
            readSuffixes levels (.index subject position) rest
      | .symbol .openParen :: rest =>
          descend levels fun levels => do
            let (arguments, rest) ←
              descend levels fun levels => readItems .closeParen levels rest
            readSuffixes levels (.call subject arguments) rest
      | words => .ok (subject, words) := by
  rw [readSuffixes, parseSuffixes.eq_def]
  cases words with
  | nil => rfl
  | cons word rest =>
      cases word with
      | symbol mark =>
          cases mark with
          | dot =>
              cases levels with
              | zero => rfl
              | succ levels =>
                  refine shed_bind fun member rest within => ?_
                  dsimp only
                  rw [readSuffixes]
                  cases parseSuffixes levels _ rest <;> rfl
          | openBracket =>
              cases levels with
              | zero => rfl
              | succ levels =>
                  refine shed_bind fun position rest within => ?_
                  refine symbol_bind fun rest within => ?_
                  dsimp only
                  rw [readSuffixes]
                  cases parseSuffixes levels _ rest <;> rfl
          | openParen =>
              cases levels with
              | zero => rfl
              | succ levels =>
                  have arguments : shed (parseList .closeParen levels rest) =
                      descend levels fun levels => readItems .closeParen levels rest := by
                    rw [parseList.eq_def]
                    cases levels <;> rfl
                  simp only [descend_succ, ← arguments]
                  refine shed_bind fun arguments rest within => ?_
                  dsimp only
                  rw [readSuffixes]
                  cases parseSuffixes levels _ rest <;> rfl
          | _ => rfl
      | _ => rfl

theorem readPrimary_eq (levels : Nat) (words : List Lexeme) :
    readPrimary levels words =
      match words with
      | .number value :: rest => .ok (.number value, rest)
      | .text content :: rest => .ok (.text content, rest)
      | .keyword .trueWord :: rest => .ok (.bool true, rest)
      | .keyword .falseWord :: rest => .ok (.bool false, rest)
      | .keyword .nullWord :: rest => .ok (.null, rest)
      | .keyword .undefinedWord :: rest => .ok (.null, rest)
      | .name written :: rest => .ok (.var written, rest)
      | .symbol .openParen :: rest =>
          descend levels fun levels => do
            let (inner, rest) ← readConditional levels rest
            let rest ← readSymbol .closeParen rest
            return (inner, rest)
      | .symbol .openBracket :: rest =>
          descend levels fun levels => do
            let (items, rest) ← readItems .closeBracket levels rest
            return (.array items, rest)
      | .symbol .openBrace :: rest =>
          descend levels fun levels => do
            let (entries, rest) ← readEntries levels rest
            return (.object entries, rest)
      | words => .error (.atWord words) := by
  rw [readPrimary, parsePrimary.eq_def]
  cases words with
  | nil => rfl
  | cons word rest =>
      cases word with
      | number value => rfl
      | text content => rfl
      | name written => rfl
      | keyword word => cases word <;> rfl
      | symbol mark =>
          cases mark with
          | openParen =>
              cases levels with
              | zero => rfl
              | succ levels =>
                  refine shed_bind fun inner rest within => ?_
                  exact symbol_bind fun rest within => rfl
          | openBracket =>
              dsimp only
              rw [parseList.eq_def]
              cases levels with
              | zero => rfl
              | succ levels => exact shed_bind fun items rest within => rfl
          | openBrace =>
              cases levels with
              | zero => rfl
              | succ levels => exact shed_bind fun entries rest within => rfl
          | _ => rfl

theorem readItems_eq (close : Symbol) (levels : Nat) (words : List Lexeme) :
    readItems close levels words =
      match readSymbol close words with
      | .ok rest => .ok ([], rest)
      | .error _ => do
          let (item, rest) ← readConditional levels words
          match readSymbol .comma rest with
          | .ok rest => do
              let (items, rest) ← readItems close levels rest
              return (item :: items, rest)
          | .error _ => do
              let rest ← readSymbol close rest
              return ([item], rest) := by
  rw [readItems, parseItems, readSymbol]
  cases takeSymbol close words with
  | ok result => rfl
  | error _ =>
      refine shed_bind fun item rest within => ?_
      dsimp only
      rw [readSymbol]
      cases takeSymbol .comma rest with
      | ok comma => exact shed_bind fun items rest within => rfl
      | error _ => exact symbol_bind fun rest within => rfl

theorem readEntries_eq (levels : Nat) (words : List Lexeme) :
    readEntries levels words =
      match readSymbol .closeBrace words with
      | .ok rest => .ok ([], rest)
      | .error _ => do
          let (key, rest) ← readKey words
          let rest ← readSymbol .colon rest
          let (value, rest) ← readConditional levels rest
          match readSymbol .comma rest with
          | .ok rest => do
              let (entries, rest) ← readEntries levels rest
              return ((key, value) :: entries, rest)
          | .error _ => do
              let rest ← readSymbol .closeBrace rest
              return ([(key, value)], rest) := by
  rw [readEntries, parseEntries, readSymbol]
  cases takeSymbol .closeBrace words with
  | ok result => rfl
  | error _ =>
      refine shed_bind fun key rest within => ?_
      refine symbol_bind fun rest within => ?_
      refine shed_bind fun value rest within => ?_
      dsimp only
      rw [readSymbol]
      cases takeSymbol .comma rest with
      | ok comma => exact shed_bind fun entries rest within => rfl
      | error _ => exact symbol_bind fun rest within => rfl

theorem ofWords_eq (words : List Lexeme) :
    ofWords words = readConditional maxDepth words >>= fun (whole, rest) =>
      match rest with
      | [] => .ok whole
      | word :: _ => .error (.unexpected word) := by
  rw [ofWords, readConditional]
  cases parseConditional maxDepth words <;> rfl

theorem compile_of_words {source : String} {words : List Lexeme} {whole : Expr}
    (read : Lexeme.readAll? source.toList = some words) (parsed : ofWords words = .ok whole) :
    compile source = .ok whole := by
  rw [compile, read]
  exact parsed

end Stencil.Expr
