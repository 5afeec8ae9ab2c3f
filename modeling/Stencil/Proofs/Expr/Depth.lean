import Mathlib.Data.List.Forall2
import Stencil.Proofs.Expr.Balance
import Stencil.Proofs.Expr.Siblings

/-!
The depth of the parser, for each of its functions and from each depth: what is taken is given back,
nothing else is, and no more levels are open at one time than the limit says.
-/

namespace Stencil.Expr

theorem Takes.exists_front {α : Type} {derives : List Lexeme → α → Prop}
    {reader : List Lexeme → Except SyntaxFault (α × List Lexeme)} {words rest : List Lexeme}
    {value : α} (takes : Takes derives reader) (read : reader words = .ok (value, rest)) :
    ∃ front, words = front ++ rest := by
  obtain ⟨front, same, _⟩ := takes _ _ _ read
  exact ⟨front, same⟩

inductive Nonterminal where
  | conditional
  | binary (level : Nat)
  | unary
  | suffixed
  | primary
  | list (close : Symbol)
  | object

namespace Nonterminal

abbrev Value : Nonterminal → Type
  | .list _ => List Expr
  | _ => Expr

def count : (part : Nonterminal) → (words : List Lexeme) → Counting (Parsed part.Value words.length)
  | .conditional => countConditional
  | .binary level => countBinary level
  | .unary => countUnary
  | .suffixed => countPostfix
  | .primary => countPrimary
  | .list close => countList close
  | .object => countObject

def parse (levels : Nat) : (part : Nonterminal) → (words : List Lexeme) →
    Except SyntaxFault (Parsed part.Value words.length)
  | .conditional, words => parseConditional levels words
  | .binary level, words => parseBinary level levels words
  | .unary, words => parseUnary levels words
  | .suffixed, words => parsePostfix levels words
  | .primary, words => parsePrimary levels words
  | .list close, words => parseList close levels words
  | .object, words => descend levels fun levels => do
      let ⟨entries, rest, within⟩ ← parseEntries levels words
      return ⟨.object entries, rest, within⟩

theorem shed_list (close : Symbol) (levels : Nat) (words : List Lexeme) :
    shed (parseList close levels words) =
      descend levels fun levels => readItems close levels words := by
  rw [parseList.eq_def]
  cases levels <;> rfl

theorem shed_object (levels : Nat) (words : List Lexeme) :
    shed (parse levels .object words) = descend levels fun levels => do
      let (entries, rest) ← readEntries levels words
      return (Expr.object entries, rest) := by
  cases levels with
  | zero => rfl
  | succ levels => exact shed_bind fun entries rest within => rfl

theorem balances (part : Nonterminal) (words : List Lexeme) :
    Balances (part.count words) (fun levels => shed (part.parse levels words)) := by
  intro levels
  have balanced := balanced words
  cases part with
  | conditional => exact balanced.conditional levels
  | binary level => exact balanced.binary level levels
  | unary => exact balanced.unary levels
  | suffixed => exact balances_suffixed (fun rest _ => Expr.balanced rest) levels
  | primary => exact balances_primary (fun rest _ => Expr.balanced rest) levels
  | list close =>
      have tracks := balanced.list close levels
      dsimp only at tracks
      rw [← shed_list] at tracks
      exact tracks
  | object =>
      have tracks := balanced.object levels
      dsimp only at tracks
      rw [← shed_object] at tracks
      exact tracks

/-- What is left is the end of the words, and fewer than all of them. -/
theorem exists_front {part : Nonterminal} {levels : Nat} {words : List Lexeme}
    {result : Parsed part.Value words.length} (parsed : part.parse levels words = .ok result) :
    ∃ front, front ≠ [] ∧ words = front ++ result.rest := by
  have read : shed (part.parse levels words) = .ok (result.value, result.rest) := by
    rw [parsed]
    rfl
  have taken : ∃ front, words = front ++ result.rest := by
    cases part with
    | conditional => exact (sound levels).conditional.exists_front read
    | binary level => exact ((sound levels).binary level).exists_front read
    | unary => exact (sound levels).unary.exists_front read
    | suffixed =>
        have takes := takes_postfix fun fewer (_ : fewer < levels) => sound fewer
        exact takes.exists_front read
    | primary =>
        have takes := takes_primary fun fewer (_ : fewer < levels) => sound fewer
        exact takes.exists_front read
    | list close =>
        rw [parse, shed_list] at read
        obtain ⟨fewer, _, items⟩ := descend_eq_ok_iff.mp read
        exact ((sound fewer).items close).exists_front items
    | object =>
        rw [shed_object] at read
        obtain ⟨fewer, _, object⟩ := descend_eq_ok_iff.mp read
        obtain ⟨⟨entries, rest⟩, first, returned⟩ := Outcome.bind_eq_ok_iff.mp object
        obtain ⟨_, behind⟩ := Prod.mk.inj (Except.ok.inj returned)
        rw [← behind]
        exact (sound fewer).entries.exists_front first
  obtain ⟨front, same⟩ := taken
  refine ⟨front, ?_, same⟩
  rintro rfl
  have fewer := result.within
  have all := congrArg List.length same
  rw [List.nil_append] at all
  omega

end Nonterminal

theorem shed_injective {α : Type} {bound : Nat} {parsed other : Except SyntaxFault (Parsed α bound)}
    (same : shed parsed = shed other) : parsed = other := by
  match parsed, other, same with
  | .error fault, .error _, rfl => rfl
  | .ok ⟨value, rest, within⟩, .ok ⟨_, _, _⟩, rfl => rfl

section Runs

variable {part : Nonterminal} {words : List Lexeme} {depth : Nat} (admitted : depth ≤ maxDepth)

include admitted

theorem depthWith_left : depthWith (maxDepth - depth) = depth := by
  rw [depthWith]
  omega

theorem follows_count (part : Nonterminal) (words : List Lexeme) :
    Follows depth (shed (part.parse (maxDepth - depth) words)) (.start depth)
      (part.count words (.start depth)) := by
  have tracks := part.balances words (maxDepth - depth)
  rw [depthWith_left admitted] at tracks
  exact tracks (.start depth) rfl

theorem outcome_count (part : Nonterminal) (words : List Lexeme) :
    (part.count words).outcome depth = part.parse (maxDepth - depth) words := by
  have follows := follows_count admitted part words
  rw [Counting.outcome]
  cases ran : part.count words (.start depth) with
  | ok result counter =>
      rw [ran] at follows
      exact (shed_injective follows.1).symm
  | error fault counter =>
      rw [ran] at follows
      exact (shed_injective follows.1).symm

theorem depth_counter_of_ok {result : Parsed part.Value words.length}
    (finished : (part.count words).outcome depth = .ok result) :
    ((part.count words).counter depth).depth = depth := by
  have follows := follows_count admitted part words
  rw [Counting.outcome] at finished
  rw [Counting.counter]
  cases ran : part.count words (.start depth) with
  | ok result counter =>
      rw [ran] at follows
      exact follows.2.1
  | error fault counter =>
      rw [ran] at finished
      cases finished

/-- The counter goes through open levels only, but for one that is refused and ends the run. -/
theorem trail_counter (part : Nonterminal) (words : List Lexeme) :
    ∃ refused opened, ((part.count words).counter depth).trail = refused ++ opened ∧
      (∀ value ∈ opened, depth ≤ value ∧ value ≤ maxDepth) ∧
      (refused = [] ∨
        refused = [maxDepth + 1] ∧ (part.count words).outcome depth = .error .tooDeep) := by
  have follows := follows_count admitted part words
  rw [Counting.outcome, Counting.counter]
  cases ran : part.count words (.start depth) with
  | ok result counter =>
      rw [ran] at follows
      obtain ⟨_, _, moves, same, bounds⟩ := follows
      exact ⟨[], moves, by rw [same]; simp [Counter.start], bounds, .inl rfl⟩
  | error fault counter =>
      rw [ran] at follows
      obtain ⟨_, ⟨moves, same, bounds⟩ | ⟨rfl, last, ⟨moves, same, bounds⟩, rfl⟩⟩ := follows
      · exact ⟨[], moves, by rw [same]; simp [Counter.start], bounds, .inl rfl⟩
      · exact ⟨[_], moves, by simp [Counter.moveTo, same, Counter.start], bounds, .inr ⟨rfl, rfl⟩⟩

end Runs

def ParsesFrom (depth : Nat) (words : List Lexeme) (whole : Expr) : Prop :=
  ∃ result, (countConditional words).outcome depth = .ok result ∧
    result.value = whole ∧ result.rest = []

theorem parsesFrom_iff {depth : Nat} (admitted : depth ≤ maxDepth) {words : List Lexeme}
    {whole : Expr} :
    ParsesFrom depth words whole ↔ readConditional (maxDepth - depth) words = .ok (whole, []) := by
  have outcome : (countConditional words).outcome depth =
      parseConditional (maxDepth - depth) words := outcome_count admitted .conditional words
  rw [ParsesFrom, outcome, readConditional, shed, Outcome.map_eq_ok_iff]
  simp only [Prod.mk.injEq]

/-- The counter of the parser is balanced. Every function comes to the outcome of the parser with
the levels left that the depth leaves; the counter is never below the depth that it started from,
and where the function succeeds it is never above the limit, ends where it started, and some words
have been read. For every source only a level that is refused goes beyond the limit, and the items
of an array are read however many there are. -/
theorem depth_balanced :
    (∀ (part : Nonterminal) (words : List Lexeme) (depth : Nat), depth ≤ maxDepth →
      (part.count words).outcome depth = part.parse (maxDepth - depth) words ∧
      (∀ value ∈ ((part.count words).counter depth).trail, depth ≤ value) ∧
      ∀ result, (part.count words).outcome depth = .ok result →
        (∀ value ∈ ((part.count words).counter depth).trail, value ≤ maxDepth) ∧
        ((part.count words).counter depth).depth = depth ∧
        ∃ front, front ≠ [] ∧ words = front ++ result.rest) ∧
    (∀ (source : String) (words : List Lexeme), Lexeme.readAll? source.toList = some words →
      ∃ refused opened, ((countConditional words).counter 0).trail = refused ++ opened ∧
        (∀ value ∈ opened, 0 ≤ value ∧ value ≤ maxDepth) ∧
        (refused = [] ∨ refused = [maxDepth + 1] ∧ compile source = .error .tooDeep)) ∧
    (∀ (items : List (List Lexeme)) (values : List Expr),
      List.Forall₂ (ParsesFrom 1) items values →
      ParsesFrom 0 (.symbol .openBracket ::
        ([.symbol .comma].intercalate items ++ [.symbol .closeBracket])) (.array values)) := by
  refine ⟨?_, ?_, ?_⟩
  · intro part words depth admitted
    obtain ⟨refused, opened, same, bounds, ended⟩ := trail_counter admitted part words
    refine ⟨outcome_count admitted part words, ?_, ?_⟩
    · intro value member
      rw [same] at member
      rcases List.mem_append.mp member with last | member
      · obtain rfl | ⟨rfl, _⟩ := ended
        · cases last
        · obtain rfl := List.mem_singleton.mp last
          omega
      · exact (bounds value member).1
    · intro result finished
      refine ⟨?_, depth_counter_of_ok admitted finished, ?_⟩
      · obtain rfl | ⟨_, failed⟩ := ended
        · intro value member
          rw [same] at member
          exact (bounds value member).2
        · rw [finished] at failed
          cases failed
      · rw [outcome_count admitted] at finished
        exact Nonterminal.exists_front finished
  · intro source words divided
    obtain ⟨refused, opened, same, bounds, ended⟩ :=
      trail_counter (Nat.zero_le _) .conditional words
    refine ⟨refused, opened, same, bounds, ended.imp_right fun ⟨last, failed⟩ => ⟨last, ?_⟩⟩
    have parsed : parseConditional maxDepth words = .error .tooDeep :=
      (outcome_count (Nat.zero_le _) .conditional words).symm.trans failed
    simp only [compile, divided]
    rw [ofWords, parsed]
    rfl
  · intro items values parsed
    rw [parsesFrom_iff (Nat.zero_le _)]
    refine readConditional_array (parsed.imp fun words whole parsed => ?_)
    exact (parsesFrom_iff (by decide)).mp parsed

theorem parsesFrom_letter : ParsesFrom 1 [.name "a"] (.var "a") := by
  rw [parsesFrom_iff (by decide)]
  refine readConditional_of_primary ⟨_, _, rfl, nofun⟩ ?_
  rw [readPrimary_eq]

theorem depth_balanced_of_pair :
    (∀ value ∈ ((countConditional [.name "a"]).counter 64).trail, 64 ≤ value) ∧
      ParsesFrom 1 [.name "a"] (.var "a") ∧
      ParsesFrom 0 [.symbol .openBracket, .name "a", .symbol .comma, .name "a",
        .symbol .closeBracket] (.array [.var "a", .var "a"]) := by
  obtain ⟨parts, _, siblings⟩ := depth_balanced
  refine ⟨(parts .conditional [.name "a"] 64 (by decide)).2.1, parsesFrom_letter, ?_⟩
  exact siblings [[.name "a"], [.name "a"]] _
    (.cons parsesFrom_letter (.cons parsesFrom_letter .nil))

end Stencil.Expr
