import Stencil.Node.Blocks
import Stencil.Proofs.Outcome

/-!
The block parser on lists of tokens. Positions are replaced by the lists that stand between them:
a loop splits what follows it into its body and the rest, a branch splits it into sections. The
tree of a range of positions is the tree of the tokens in that range.
-/

namespace Stencil.Node

open Outcome

def splitLoop? : (depth : Nat) → List Token → Option (List Token × List Token)
  | _, [] => none
  | depth, token :: rest =>
      match token.kind with
      | .forLoop => (splitLoop? (depth + 1) rest).map (Prod.map (token :: ·) id)
      | .endFor =>
          if depth = 0 then some ([], rest)
          else (splitLoop? (depth - 1) rest).map (Prod.map (token :: ·) id)
      | _ => (splitLoop? depth rest).map (Prod.map (token :: ·) id)

structure Sections where
  first : List Token
  marked : List (Token × List Token)
  after : List Token

namespace Sections

def push (token : Token) (sections : Sections) : Sections :=
  { sections with first := token :: sections.first }

def divide (token : Token) (sections : Sections) : Sections :=
  ⟨[], (token, sections.first) :: sections.marked, sections.after⟩

def markedTokens : List (Token × List Token) → List Token
  | [] => []
  | (mark, inside) :: marked => mark :: (inside ++ markedTokens marked)

end Sections

def splitSections (opener : Location) :
    (depth : Nat) → (elseSeen : Bool) → List Token → Except BlockError Sections
  | _, _, [] => .error ⟨.unclosedIf, opener⟩
  | depth, elseSeen, token :: rest =>
      match token.kind, depth with
      | .ifBranch, depth => (splitSections opener (depth + 1) elseSeen rest).map (.push token)
      | .endIf, 0 => .ok ⟨[], [], rest⟩
      | .endIf, depth + 1 => (splitSections opener depth elseSeen rest).map (.push token)
      | .elseIf, 0 =>
          if elseSeen then .error ⟨.elseIfAfterElse, token.location⟩
          else (splitSections opener 0 elseSeen rest).map (.divide token)
      | .elseBranch, 0 =>
          if elseSeen then .error ⟨.secondElse, token.location⟩
          else (splitSections opener 0 true rest).map (.divide token)
      | _, depth => (splitSections opener depth elseSeen rest).map (.push token)

theorem eq_append_of_splitLoop? {depth : Nat} {tokens inside after : List Token}
    (found : splitLoop? depth tokens = some (inside, after)) :
    ∃ closer, closer.kind = .endFor ∧ tokens = inside ++ closer :: after := by
  have pushed {token : Token} {rest inside : List Token}
      {split : Option (List Token × List Token)}
      (found : split.map (Prod.map (token :: ·) id) = some (inside, after))
      (ih : ∀ {inside}, split = some (inside, after) →
        ∃ closer, closer.kind = .endFor ∧ rest = inside ++ closer :: after) :
      ∃ closer, closer.kind = .endFor ∧ token :: rest = inside ++ closer :: after := by
    obtain ⟨⟨front, back⟩, split, same⟩ := Option.map_eq_some_iff.mp found
    simp only [Prod.map_apply, id_eq, Prod.mk.injEq] at same
    obtain ⟨rfl, rfl⟩ := same
    obtain ⟨closer, kind, whole⟩ := ih split
    exact ⟨closer, kind, by simp [whole]⟩
  fun_induction splitLoop? depth tokens generalizing inside with
  | case1 => simp at found
  | case2 depth token rest kind ih => exact pushed found ih
  | case3 token rest kind =>
      simp only [Option.some.injEq, Prod.mk.injEq] at found
      obtain ⟨rfl, rfl⟩ := found
      exact ⟨token, kind, rfl⟩
  | case4 depth token rest kind open' ih => exact pushed found ih
  | case5 depth token rest notFor notEnd ih => exact pushed found ih

theorem length_splitLoop? {depth : Nat} {tokens inside after : List Token}
    (found : splitLoop? depth tokens = some (inside, after)) :
    inside.length + after.length < tokens.length := by
  obtain ⟨closer, _, rfl⟩ := eq_append_of_splitLoop? found
  simp only [List.length_append, List.length_cons]
  omega

def Sections.Ordered : List (Token × List Token) → Prop
  | [] => True
  | (mark, _) :: marked =>
      (mark.kind = .elseIf ∧ Ordered marked) ∨ (mark.kind = .elseBranch ∧ marked = [])

structure Sections.Split (tokens : List Token) (elseSeen : Bool) (sections : Sections) : Prop where
  whole : ∃ closer, closer.kind = .endIf ∧ tokens =
    sections.first ++ (markedTokens sections.marked ++ closer :: sections.after)
  ordered : Ordered sections.marked
  last : elseSeen = true → sections.marked = []

theorem Sections.Split.push {tokens : List Token} {elseSeen : Bool} {sections : Sections}
    (split : Split tokens elseSeen sections) (token : Token) :
    Split (token :: tokens) elseSeen (sections.push token) := by
  obtain ⟨closer, kind, whole⟩ := split.whole
  exact ⟨⟨closer, kind, by simp [Sections.push, whole]⟩, split.ordered, split.last⟩

theorem Sections.Split.divide {tokens : List Token} {elseSeen : Bool} {sections : Sections}
    (split : Split tokens elseSeen sections) {token : Token}
    (kind : token.kind = .elseIf ∨ (token.kind = .elseBranch ∧ elseSeen = true)) :
    Split (token :: tokens) false (sections.divide token) := by
  obtain ⟨closer, closerKind, whole⟩ := split.whole
  refine ⟨⟨closer, closerKind, ?_⟩, ?_, by simp⟩
  · simp [Sections.divide, markedTokens, whole]
  · rcases kind with kind | ⟨kind, seen⟩
    · exact Or.inl ⟨kind, split.ordered⟩
    · exact Or.inr ⟨kind, split.last seen⟩

theorem split_of_splitSections {opener : Location} {depth : Nat} {elseSeen : Bool}
    {tokens : List Token} {sections : Sections}
    (found : splitSections opener depth elseSeen tokens = .ok sections) :
    sections.Split tokens elseSeen := by
  fun_induction splitSections opener depth elseSeen tokens generalizing sections with
  | case1 => simp at found
  | case2 elseSeen token rest depth kind ih =>
      obtain ⟨inner, split, rfl⟩ := map_eq_ok_iff.mp found
      exact (ih split).push _
  | case3 elseSeen token rest kind =>
      simp only [Except.ok.injEq] at found
      subst found
      exact ⟨⟨token, kind, rfl⟩, trivial, fun _ => rfl⟩
  | case4 elseSeen token rest depth kind ih =>
      obtain ⟨inner, split, rfl⟩ := map_eq_ok_iff.mp found
      exact (ih split).push _
  | case5 => simp at found
  | case6 elseSeen token rest kind unseen ih =>
      obtain ⟨inner, split, rfl⟩ := map_eq_ok_iff.mp found
      simp only [unseen]
      exact (ih split).divide (.inl kind)
  | case7 => simp at found
  | case8 elseSeen token rest kind unseen ih =>
      obtain ⟨inner, split, rfl⟩ := map_eq_ok_iff.mp found
      simp only [unseen]
      exact (ih split).divide (.inr ⟨kind, rfl⟩)
  | case9 elseSeen token rest depth notIf notEnd notNested notElseIf notElse ih =>
      obtain ⟨inner, split, rfl⟩ := map_eq_ok_iff.mp found
      exact (ih split).push _

theorem length_splitSections {opener : Location} {depth : Nat} {elseSeen : Bool}
    {tokens : List Token} {sections : Sections}
    (found : splitSections opener depth elseSeen tokens = .ok sections) :
    sections.first.length + (Sections.markedTokens sections.marked).length +
      sections.after.length < tokens.length := by
  obtain ⟨closer, _, rfl⟩ := (split_of_splitSections found).whole
  simp only [List.length_append, List.length_cons]
  omega

mutual

def ofTokens (tokens : List Token) : Except BlockError (List Node) :=
  match tokens with
  | [] => .ok []
  | token :: rest =>
      match token.kind with
      | .plain => do
          let others ← ofTokens rest
          return .plain token.text :: others
      | .expression => do
          let others ← ofTokens rest
          return .output (.ofSource token.text) token.location :: others
      | .forLoop =>
          match _found : splitLoop? 0 rest with
          | none => .error ⟨.unclosedFor, token.location⟩
          | some (inside, after) =>
              match splitFor? token.text with
              | none => .error ⟨.invalidFor, token.location⟩
              | some (variableName, iterable) => do
                  let body ← ofTokens inside
                  let others ← ofTokens after
                  return .forLoop variableName (.ofSource iterable) body token.location :: others
      | .ifBranch =>
          match _found : splitSections token.location 0 false rest with
          | .error error => .error error
          | .ok sections => do
              let body ← ofTokens sections.first
              let alternatives ← ofMarked sections.marked
              let others ← ofTokens sections.after
              return .ifBranch (.ofSource token.text) body alternatives token.location :: others
      | kind => .error ⟨.unexpected kind, token.location⟩
termination_by tokens.length
decreasing_by
  all_goals simp only [List.length_cons]
  · omega
  · omega
  · have := length_splitLoop? _found; omega
  · have := length_splitLoop? _found; omega
  · have := length_splitSections _found; omega
  · have := length_splitSections _found; omega
  · have := length_splitSections _found; omega

def ofMarked (marked : List (Token × List Token)) : Except BlockError Alternatives :=
  match marked with
  | [] => .ok .none
  | (mark, inside) :: marked => do
      let body ← ofTokens inside
      match mark.kind with
      | .elseIf =>
          let others ← ofMarked marked
          return .elseIf (.ofSource mark.text) body others mark.location
      | _ => return .elseBranch body
termination_by (Sections.markedTokens marked).length
decreasing_by
  · simp only [Sections.markedTokens, List.length_cons, List.length_append]; omega
  · simp only [Sections.markedTokens, List.length_cons, List.length_append]; omega

end

@[simp] theorem ofTokens_nil : ofTokens [] = .ok [] := by rw [ofTokens]

section Steps

variable {token : Token} (rest : List Token)

theorem ofTokens_plain (kind : token.kind = .plain) :
    ofTokens (token :: rest) = do
      let others ← ofTokens rest
      return .plain token.text :: others := by
  rw [ofTokens]
  simp only [kind]

theorem ofTokens_output (kind : token.kind = .expression) :
    ofTokens (token :: rest) = do
      let others ← ofTokens rest
      return .output (.ofSource token.text) token.location :: others := by
  rw [ofTokens]
  simp only [kind]

theorem ofTokens_forLoop (kind : token.kind = .forLoop) :
    ofTokens (token :: rest) =
      match splitLoop? 0 rest with
      | none => .error ⟨.unclosedFor, token.location⟩
      | some (inside, after) =>
          match splitFor? token.text with
          | none => .error ⟨.invalidFor, token.location⟩
          | some (variableName, iterable) => do
              let body ← ofTokens inside
              let others ← ofTokens after
              return .forLoop variableName (.ofSource iterable) body token.location :: others := by
  rw [ofTokens]
  simp only [kind]
  split <;> simp only [*]

theorem ofTokens_ifBranch (kind : token.kind = .ifBranch) :
    ofTokens (token :: rest) = do
      let sections ← splitSections token.location 0 false rest
      let body ← ofTokens sections.first
      let alternatives ← ofMarked sections.marked
      let others ← ofTokens sections.after
      return .ifBranch (.ofSource token.text) body alternatives token.location :: others := by
  rw [ofTokens]
  simp only [kind]
  split <;> simp only [*, ok_bind, error_bind]

theorem ofTokens_stray
    (kind : token.kind ∈ [TokenKind.endFor, .elseIf, .elseBranch, .endIf]) :
    ofTokens (token :: rest) = .error ⟨.unexpected token.kind, token.location⟩ := by
  simp only [List.mem_cons, List.not_mem_nil, or_false] at kind
  rw [ofTokens]
  rcases kind with kind | kind | kind | kind <;> simp only [kind]

end Steps

@[simp] theorem ofMarked_nil : ofMarked [] = .ok .none := by rw [ofMarked]

theorem ofMarked_elseIf {mark : Token} (inside : List Token) (marked : List (Token × List Token))
    (kind : mark.kind = .elseIf) :
    ofMarked ((mark, inside) :: marked) = do
      let body ← ofTokens inside
      let others ← ofMarked marked
      return .elseIf (.ofSource mark.text) body others mark.location := by
  rw [ofMarked]
  simp only [kind]

theorem ofMarked_elseBranch {mark : Token} (inside : List Token)
    (marked : List (Token × List Token)) (kind : mark.kind = .elseBranch) :
    ofMarked ((mark, inside) :: marked) = do
      let body ← ofTokens inside
      return .elseBranch body := by
  rw [ofMarked]
  simp only [kind]

end Stencil.Node
