import Stencil.Proofs.Expr.Counting
import Stencil.Proofs.Expr.Reading

/-!
The parser with a counter comes to the outcome of the parser that is handed the levels left, and its
counter is balanced: while something is read the counter stays at or above the value that it has
when the reading ends, and only a level that is refused takes it above the limit. The functions are
followed one by one for some words, with those for fewer words given.
-/

namespace Stencil

namespace Counter

def Within (low : Int) (before after : Counter) : Prop :=
  ∃ moves, after.trail = moves ++ before.trail ∧
    ∀ depth ∈ moves, low ≤ depth ∧ depth ≤ Expr.maxDepth

def Refused (low : Int) (before after : Counter) : Prop :=
  ∃ last : Counter, Within low before last ∧ after = last.moveTo (Expr.maxDepth + 1)

variable {low lower : Int} {before middle after : Counter}

theorem Within.refl (low : Int) (counter : Counter) : Within low counter counter :=
  ⟨[], rfl, by simp⟩

theorem Within.moveTo {depth : Int} (above : low ≤ depth) (below : depth ≤ Expr.maxDepth)
    (counter : Counter) : Within low counter (counter.moveTo depth) :=
  ⟨[depth], rfl, by simp [above, below]⟩

theorem Within.mono (within : Within low before after) (less : lower ≤ low) :
    Within lower before after := by
  obtain ⟨moves, same, bounds⟩ := within
  refine ⟨moves, same, ?_⟩
  intro depth member
  have bound := bounds depth member
  omega

theorem Within.trans (first : Within low before middle) (second : Within low middle after) :
    Within low before after := by
  obtain ⟨moves, same, bounds⟩ := first
  obtain ⟨later, laterSame, laterBounds⟩ := second
  refine ⟨later ++ moves, by rw [laterSame, same, List.append_assoc], ?_⟩
  intro depth member
  rcases List.mem_append.mp member with member | member
  · exact laterBounds depth member
  · exact bounds depth member

theorem Refused.mono (refused : Refused low before after) (less : lower ≤ low) :
    Refused lower before after := by
  obtain ⟨last, within, rfl⟩ := refused
  exact ⟨last, within.mono less, rfl⟩

theorem Within.refused (first : Within low before middle) (second : Refused low middle after) :
    Refused low before after := by
  obtain ⟨last, within, rfl⟩ := second
  exact ⟨last, first.trans within, rfl⟩

end Counter

namespace Expr

theorem descend_bind {α β : Type} (levels : Nat) (next : Nat → Except SyntaxFault α)
    (after : α → Except SyntaxFault β) :
    (descend levels fun levels => next levels >>= after) = descend levels next >>= after := by
  cases levels <;> rfl

section Tracks

variable {α β : Type} {bound wide : Nat} {start middle finish : Int}

/-- The run comes to the outcome that is read. It leaves the counter at `finish`, and nothing takes
the counter below that. -/
def Follows (finish : Int) (read : Except SyntaxFault (α × List Lexeme)) (before : Counter) :
    EStateM.Result SyntaxFault Counter (Parsed α bound) → Prop
  | .ok result after =>
      read = .ok (result.value, result.rest) ∧ after.depth = finish ∧
        Counter.Within finish before after
  | .error fault after =>
      read = .error fault ∧
        (Counter.Within finish before after ∨
          fault = .tooDeep ∧ Counter.Refused finish before after)

def Tracks (start finish : Int) (run : Counting (Parsed α bound))
    (read : Except SyntaxFault (α × List Lexeme)) : Prop :=
  ∀ before : Counter, before.depth = start → Follows finish read before (run before)

theorem Follows.behind {read : Except SyntaxFault (α × List Lexeme)} {before between : Counter}
    {result : EStateM.Result SyntaxFault Counter (Parsed α bound)}
    (kept : Counter.Within finish before between) (later : Follows finish read between result) :
    Follows finish read before result := by
  cases result with
  | ok value after =>
      obtain ⟨same, finishes, keptLater⟩ := later
      exact ⟨same, finishes, kept.trans keptLater⟩
  | error fault after =>
      obtain ⟨same, keptLater | ⟨deep, refused⟩⟩ := later
      · exact ⟨same, .inl (kept.trans keptLater)⟩
      · exact ⟨same, .inr ⟨deep, kept.refused refused⟩⟩

theorem tracks_outcome (start : Int) (step : Except SyntaxFault (Parsed α bound)) :
    Tracks start start (Counting.ofExcept step) (shed step) := by
  intro before starts
  cases step with
  | error fault => exact ⟨rfl, .inl (.refl _ _)⟩
  | ok result => exact ⟨rfl, starts, .refl _ _⟩

theorem tracks_return (start : Int) (value : α) (rest : List Lexeme)
    (within : rest.length < bound) :
    Tracks start start (pure ⟨value, rest, within⟩) (.ok (value, rest)) := by
  intro before starts
  exact ⟨rfl, starts, .refl _ _⟩

theorem tracks_ascend {levels : Nat} (back : start = finish + levels) (fits : finish ≤ maxDepth)
    (value : α) (rest : List Lexeme) (within : rest.length < bound) :
    Tracks start finish (do Counting.ascend levels; return ⟨value, rest, within⟩)
      (.ok (value, rest)) := by
  intro before starts
  have depth : before.depth - levels = finish := by omega
  refine ⟨rfl, depth, ?_⟩
  exact .moveTo (by omega) (by omega) _

theorem Tracks.bind {run : Counting (Parsed α bound)} {read : Except SyntaxFault (α × List Lexeme)}
    {next : Parsed α bound → Counting (Parsed β wide)}
    {reader : α × List Lexeme → Except SyntaxFault (β × List Lexeme)}
    (first : Tracks start middle run read) (lower : finish ≤ middle)
    (second : ∀ value rest within,
      Tracks middle finish (next ⟨value, rest, within⟩) (reader (value, rest))) :
    Tracks start finish (run >>= next) (read >>= reader) := by
  intro before starts
  have ran := first before starts
  show Follows finish _ before (EStateM.bind run next before)
  unfold EStateM.bind
  cases result : run before with
  | error fault between =>
      rw [result] at ran
      obtain ⟨rfl, kept | ⟨deep, refused⟩⟩ := ran
      · exact ⟨rfl, .inl (kept.mono lower)⟩
      · exact ⟨rfl, .inr ⟨deep, refused.mono lower⟩⟩
  | ok parsed between =>
      rw [result] at ran
      obtain ⟨rfl, reaches, kept⟩ := ran
      exact .behind (kept.mono lower) (second _ _ parsed.within between reaches)

/-- What is read is returned behind another step. -/
theorem Tracks.passOn {run : Counting (Parsed α bound)}
    {read : Except SyntaxFault (α × List Lexeme)} {next : Parsed α bound → Counting (Parsed α wide)}
    (first : Tracks start middle run read) (lower : finish ≤ middle)
    (second : ∀ value rest within,
      Tracks middle finish (next ⟨value, rest, within⟩) (.ok (value, rest))) :
    Tracks start finish (run >>= next) read := by
  have nothing : read = read >>= .ok := by cases read <;> rfl
  rw [nothing]
  exact first.bind lower second

/-- Only the bound of what is read is another one. -/
theorem Tracks.widen {run : Counting (Parsed α bound)}
    {read : Except SyntaxFault (α × List Lexeme)} {next : Parsed α bound → Counting (Parsed α wide)}
    (tracks : Tracks start finish run read)
    (same : ∀ value rest within, ∃ wider, next ⟨value, rest, within⟩ = pure ⟨value, rest, wider⟩) :
    Tracks start finish (run >>= next) read := by
  refine tracks.passOn (Int.le_refl _) fun value rest within => ?_
  obtain ⟨wider, returned⟩ := same value rest within
  rw [returned]
  exact tracks_return _ _ _ _

theorem Tracks.symbol {symbol : Symbol} {words : List Lexeme}
    {next : Parsed Unit words.length → Counting (Parsed β wide)}
    {reader : List Lexeme → Except SyntaxFault (β × List Lexeme)} (lower : finish ≤ start)
    (second : ∀ rest within, Tracks start finish (next ⟨(), rest, within⟩) (reader rest)) :
    Tracks start finish (Counting.ofExcept (takeSymbol symbol words) >>= next)
      (readSymbol symbol words >>= reader) := by
  have same : (readSymbol symbol words >>= reader) =
      shed (takeSymbol symbol words) >>= fun (_, rest) => reader rest := by
    rw [readSymbol]
    cases takeSymbol symbol words <;> rfl
  rw [same]
  exact (tracks_outcome start _).bind lower fun _ rest within => second rest within

def depthWith (levels : Nat) : Int := maxDepth - levels

theorem depthWith_succ (levels : Nat) : depthWith levels = depthWith (levels + 1) + 1 := by
  rw [depthWith, depthWith]
  omega

theorem depthWith_le (levels : Nat) : depthWith levels ≤ maxDepth := by
  rw [depthWith]
  omega

theorem Tracks.descend {levels : Nat} {run : Counting (Parsed α bound)}
    {next : Nat → Except SyntaxFault (α × List Lexeme)} (lower : finish ≤ depthWith levels)
    (deeper : ∀ fewer, depthWith fewer = depthWith levels + 1 →
      Tracks (depthWith fewer) finish run (next fewer)) :
    Tracks (depthWith levels) finish (do Counting.descend; run) (Expr.descend levels next) := by
  intro before starts
  show Follows finish _ before (EStateM.bind Counting.descend (fun _ => run) before)
  unfold EStateM.bind
  cases levels with
  | zero =>
      have last : before.depth = maxDepth := by simpa [depthWith] using starts
      have refused : Counting.descend before = .error .tooDeep (before.moveTo (maxDepth + 1)) := by
        rw [Counting.descend, last]
        exact if_neg (Int.not_le.mpr (Int.lt_succ _))
      rw [refused]
      exact ⟨rfl, .inr ⟨rfl, before, .refl _ _, rfl⟩⟩
  | succ levels =>
      have next : before.depth + 1 = depthWith levels := by rw [starts, depthWith_succ levels]
      have opened : Counting.descend before = .ok () (before.moveTo (depthWith levels)) := by
        simp [Counting.descend, Counter.moveTo, next, depthWith_le]
      have above : finish ≤ depthWith levels := by omega
      rw [opened]
      exact .behind (.moveTo above (depthWith_le levels) before)
        (deeper levels (depthWith_succ levels) _ rfl)

def Balances (run : Counting (Parsed α bound))
    (read : Nat → Except SyntaxFault (α × List Lexeme)) : Prop :=
  ∀ levels, Tracks (depthWith levels) (depthWith levels) run (read levels)

def GivesBack (taken : Nat) (run : Counting (Parsed α bound))
    (read : Nat → Except SyntaxFault (α × List Lexeme)) : Prop :=
  ∀ levels, Tracks (depthWith levels) (depthWith levels - taken) run (read levels)

/-- What was opened just before the run is given back with the levels before it. -/
theorem GivesBack.further {taken levels below : Nat} {run : Counting (Parsed α bound)}
    {read : Nat → Except SyntaxFault (α × List Lexeme)} (later : GivesBack (taken + 1) run read)
    (deeper : depthWith below = depthWith levels + 1) :
    Tracks (depthWith below) (depthWith levels - taken) run (read below) := by
  have tracks := later below
  have same : depthWith below - (taken + 1 : Nat) = depthWith levels - taken := by omega
  rwa [same] at tracks

theorem GivesBack.balances {run : Counting (Parsed α bound)}
    {read : Nat → Except SyntaxFault (α × List Lexeme)} (nothing : GivesBack 0 run read) :
    Balances run read := by
  intro levels
  have tracks := nothing levels
  rwa [Int.natCast_zero, Int.sub_zero] at tracks

end Tracks

structure Balanced (words : List Lexeme) : Prop where
  conditional : Balances (countConditional words) (readConditional · words)
  binary : ∀ level, Balances (countBinary level words) (readBinary level · words)
  chain : ∀ level taken left,
    GivesBack taken (countChain level taken left words) (readChain level · left words)
  unary : Balances (countUnary words) (readUnary · words)
  suffixes : ∀ taken subject,
    GivesBack taken (countSuffixes taken subject words) (readSuffixes · subject words)
  list : ∀ close,
    Balances (countList close words) (descend · fun levels => readItems close levels words)
  items : ∀ close, Balances (countItems close words) (readItems close · words)
  object : Balances (countObject words) (descend · fun levels => do
    let (entries, rest) ← readEntries levels words
    return (.object entries, rest))
  entries : Balances (countEntries words) (readEntries · words)

section Step

variable {words : List Lexeme}
  (fewer : ∀ rest : List Lexeme, rest.length < words.length → Balanced rest)

include fewer

theorem balances_primary : Balances (countPrimary words) (readPrimary · words) := by
  intro levels
  dsimp only
  rw [countPrimary.eq_def, readPrimary_eq]
  cases words with
  | nil => exact tracks_outcome _ (.error _)
  | cons word rest =>
      have inner := fewer rest (by simp)
      cases word with
      | number value => exact tracks_return _ _ _ _
      | text content => exact tracks_return _ _ _ _
      | name written => exact tracks_return _ _ _ _
      | keyword word => cases word <;> exact tracks_return _ _ _ _
      | symbol mark =>
          cases mark with
          | openParen =>
              refine Tracks.descend (Int.le_refl _) fun below deeper => ?_
              refine (inner.conditional below).bind (by omega) fun whole rest within => ?_
              refine Tracks.symbol (by omega) fun rest within => ?_
              exact tracks_ascend deeper (depthWith_le _) _ _ _
          | openBracket =>
              dsimp only
              rw [descend_bind]
              exact (inner.list .closeBracket levels).bind (Int.le_refl _)
                fun items rest within => tracks_return _ _ _ _
          | openBrace => exact (inner.object levels).widen fun _ _ _ => ⟨_, rfl⟩
          | _ => exact tracks_outcome _ (.error _)

theorem givesBack_suffixes (taken : Nat) (subject : Expr) :
    GivesBack taken (countSuffixes taken subject words) (readSuffixes · subject words) := by
  intro levels
  have fits := depthWith_le levels
  have further (grown : Expr) {rest : List Lexeme} {below : Nat}
      (deeper : depthWith below = depthWith levels + 1) (less : rest.length < words.length) :
      Tracks (depthWith below) (depthWith levels - taken) (countSuffixes (taken + 1) grown rest)
        (readSuffixes below grown rest) :=
    ((fewer rest less).suffixes (taken + 1) grown).further deeper
  dsimp only
  rw [countSuffixes.eq_def, readSuffixes_eq]
  cases words with
  | nil => exact tracks_ascend (by omega) (by omega) _ _ _
  | cons word rest =>
      have inner := fewer rest (by simp)
      cases word with
      | symbol mark =>
          cases mark with
          | dot =>
              refine Tracks.descend (by omega) fun below deeper => ?_
              refine (tracks_outcome _ _).bind (by omega) fun member rest within => ?_
              exact (further _ deeper (by simp; omega)).widen fun _ _ _ => ⟨_, rfl⟩
          | openBracket =>
              refine Tracks.descend (by omega) fun below deeper => ?_
              refine (inner.conditional below).bind (by omega) fun position rest within => ?_
              refine Tracks.symbol (by omega) fun rest within => ?_
              exact (further _ deeper (by simp; omega)).widen fun _ _ _ => ⟨_, rfl⟩
          | openParen =>
              refine Tracks.descend (by omega) fun below deeper => ?_
              refine (inner.list .closeParen below).bind (by omega) fun arguments rest within => ?_
              exact (further _ deeper (by simp; omega)).widen fun _ _ _ => ⟨_, rfl⟩
          | _ => exact tracks_ascend (by omega) (by omega) _ _ _
      | _ => exact tracks_ascend (by omega) (by omega) _ _ _

theorem balances_suffixed : Balances (countPostfix words) (readPostfix · words) := by
  intro levels
  dsimp only
  rw [countPostfix.eq_def, readPostfix_eq]
  refine Tracks.bind (balances_primary fewer levels) (Int.le_refl _) fun subject rest within => ?_
  have suffixes := (fewer rest within).suffixes 0 subject
  exact (suffixes.balances levels).widen fun _ _ _ => ⟨_, rfl⟩

theorem balances_unary : Balances (countUnary words) (readUnary · words) := by
  intro levels
  have operand := balances_suffixed fewer levels
  dsimp only
  rw [countUnary.eq_def, readUnary_eq]
  cases words with
  | nil => exact operand
  | cons word rest =>
      cases word with
      | symbol mark =>
          dsimp only
          cases UnaryOp.ofSymbol? mark with
          | none => exact operand
          | some operator =>
              refine Tracks.descend (Int.le_refl _) fun below deeper => ?_
              refine Tracks.bind ((fewer rest (by simp)).unary below) (by omega)
                fun operand rest within => ?_
              exact tracks_ascend deeper (depthWith_le _) _ _ _
      | _ => exact operand

theorem givesBack_chain (level taken : Nat) (left : Expr) :
    GivesBack taken (countChain level taken left words) (readChain level · left words) := by
  intro levels
  have fits := depthWith_le levels
  dsimp only
  rw [countChain.eq_def, readChain_eq]
  cases words with
  | nil => exact tracks_ascend (by omega) (by omega) _ _ _
  | cons word rest =>
      cases word with
      | symbol mark =>
          dsimp only
          cases BinaryOp.ofSymbol? level mark with
          | none => exact tracks_ascend (by omega) (by omega) _ _ _
          | some operator =>
              refine Tracks.descend (by omega) fun below deeper => ?_
              refine Tracks.bind ((fewer rest (by simp)).binary (level - 1) below) (by omega)
                fun right rest within => ?_
              have later := (fewer rest (by simp; omega)).chain level (taken + 1)
                (.binary operator left right)
              exact (later.further deeper).widen fun _ _ _ => ⟨_, rfl⟩
      | _ => exact tracks_ascend (by omega) (by omega) _ _ _

theorem balances_binary (level : Nat) :
    Balances (countBinary level words) (readBinary level · words) := by
  induction level with
  | zero =>
      intro levels
      dsimp only
      rw [countBinary.eq_def, readBinary_zero]
      exact balances_unary fewer levels
  | succ level ih =>
      intro levels
      dsimp only
      rw [countBinary.eq_def, readBinary_succ]
      refine Tracks.bind (ih levels) (Int.le_refl _) fun first rest within => ?_
      have chain := (fewer rest within).chain (level + 1) 0 first
      exact (chain.balances levels).widen fun _ _ _ => ⟨_, rfl⟩

theorem balances_conditional : Balances (countConditional words) (readConditional · words) := by
  intro levels
  dsimp only
  rw [countConditional.eq_def, readConditional_eq]
  refine (balances_binary fewer 6 levels).bind (Int.le_refl _) fun condition rest within => ?_
  dsimp only
  cases rest with
  | nil => exact tracks_return _ _ _ _
  | cons word rest =>
      cases word with
      | symbol mark =>
          cases mark with
          | question =>
              have shorter : rest.length < words.length := Nat.lt_of_succ_lt within
              refine Tracks.descend (Int.le_refl _) fun below deeper => ?_
              refine ((fewer rest shorter).conditional below).bind (by omega)
                fun consequent rest₁ within₁ => ?_
              refine Tracks.symbol (by omega) fun rest₂ within₂ => ?_
              have fewest : rest₂.length < words.length :=
                Nat.lt_trans within₂ (Nat.lt_trans within₁ shorter)
              refine ((fewer rest₂ fewest).conditional below).bind (by omega)
                fun alternative rest₃ within₃ => ?_
              exact tracks_ascend deeper (depthWith_le _) _ _ _
          | _ => exact tracks_return _ _ _ _
      | _ => exact tracks_return _ _ _ _

theorem balances_items (close : Symbol) :
    Balances (countItems close words) (readItems close · words) := by
  intro levels
  dsimp only
  rw [countItems.eq_def, readItems_eq, readSymbol]
  cases takeSymbol close words with
  | ok closed => exact tracks_return _ _ _ _
  | error _ =>
      refine (balances_conditional fewer levels).bind (Int.le_refl _) fun item rest within => ?_
      dsimp only
      rw [readSymbol]
      cases takeSymbol .comma rest with
      | ok comma =>
          have later := (fewer comma.rest (Nat.lt_trans comma.within within)).items close levels
          exact later.bind (Int.le_refl _) fun items rest within => tracks_return _ _ _ _
      | error _ => exact Tracks.symbol (Int.le_refl _) fun rest within => tracks_return _ _ _ _

theorem balances_list (close : Symbol) :
    Balances (countList close words) (descend · fun levels => readItems close levels words) := by
  intro levels
  dsimp only
  rw [countList.eq_def]
  refine Tracks.descend (Int.le_refl _) fun below deeper => ?_
  exact (balances_items fewer close below).passOn (by omega)
    fun items rest within => tracks_ascend deeper (depthWith_le _) _ _ _

theorem balances_entries : Balances (countEntries words) (readEntries · words) := by
  intro levels
  dsimp only
  rw [countEntries.eq_def, readEntries_eq, readSymbol]
  cases takeSymbol .closeBrace words with
  | ok closed => exact tracks_return _ _ _ _
  | error _ =>
      refine (tracks_outcome _ _).bind (Int.le_refl _) fun key rest within => ?_
      refine Tracks.symbol (Int.le_refl _) fun rest₁ within₁ => ?_
      refine ((fewer rest₁ (by omega)).conditional levels).bind (Int.le_refl _)
        fun value rest₂ within₂ => ?_
      dsimp only
      rw [readSymbol]
      cases takeSymbol .comma rest₂ with
      | ok comma =>
          have later := (fewer comma.rest (by have := comma.within; omega)).entries levels
          exact later.bind (Int.le_refl _) fun entries rest within => tracks_return _ _ _ _
      | error _ => exact Tracks.symbol (Int.le_refl _) fun rest within => tracks_return _ _ _ _

theorem balances_object : Balances (countObject words) (descend · fun levels => do
    let (entries, rest) ← readEntries levels words
    return (.object entries, rest)) := by
  intro levels
  dsimp only
  rw [countObject.eq_def]
  refine Tracks.descend (Int.le_refl _) fun below deeper => ?_
  refine (balances_entries fewer below).bind (by omega) fun entries rest within => ?_
  exact tracks_ascend deeper (depthWith_le _) _ _ _

end Step

theorem balanced (words : List Lexeme) : Balanced words := by
  generalize count : words.length = size
  induction size using Nat.strongRecOn generalizing words with
  | ind size ih =>
      have fewer (rest : List Lexeme) (less : rest.length < words.length) : Balanced rest :=
        ih rest.length (by omega) rest rfl
      exact {
        conditional := balances_conditional fewer
        binary := balances_binary fewer
        chain := givesBack_chain fewer
        unary := balances_unary fewer
        suffixes := givesBack_suffixes fewer
        list := balances_list fewer
        items := balances_items fewer
        object := balances_object fewer
        entries := balances_entries fewer }

end Expr

end Stencil
