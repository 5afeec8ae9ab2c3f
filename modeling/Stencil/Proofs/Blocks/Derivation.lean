import Mathlib.Data.List.Forall2
import Stencil.Proofs.Blocks.Ranges
import Stencil.Proofs.Text.Occurrence

/-!
The grammar of blocks. A derivation is a tree whose leaves are the tokens of a template: plain
texts, expressions, loops from their `for` to their `efor`, and branches from their `if` over any
number of `else if` and perhaps one `else` to their `eif`. Parsing succeeds on the tokens of a
derivation and on nothing else, a list of tokens has at most one derivation, and the nodes keep
what the tags of the derivation say.
-/

namespace Stencil

open Outcome

def LoopHeader (text variableName iterable : String) : Prop :=
  ∃ before after : List Char,
    text.toList = before ++ ([' ', 'i', 'n', ' '] ++ after) ∧
    Text.Avoids [' ', 'i', 'n', ' '] before ([' ', 'i', 'n', ' '] ++ after) ∧
    Text.isName (Text.trim before) = true ∧
    variableName = String.ofList (Text.trim before) ∧ iterable = String.ofList (Text.trim after)

theorem splitFor?_eq_some_iff {text variableName iterable : String} :
    Node.splitFor? text = some (variableName, iterable) ↔
      LoopHeader text variableName iterable := by
  constructor
  · intro split
    rw [Node.splitFor?] at split
    split at split
    · simp at split
    · rename_i before after found
      dsimp only at split
      split at split
      · rename_i named
        obtain ⟨whole, first⟩ := Text.cutAt?_eq_some_iff.mp found
        simp only [Option.some.injEq, Prod.mk.injEq] at split
        exact ⟨before, after, whole, first, named, split.1.symm, split.2.symm⟩
      · simp at split
  · rintro ⟨before, after, whole, first, named, rfl, rfl⟩
    have found := Text.cutAt?_eq_some_iff.mpr ⟨whole, first⟩
    simp [Node.splitFor?, found, named]

abbrev TokenOf (kind : TokenKind) := { token : Token // token.kind = kind }

structure LoopTag where
  token : Token
  variableName : String
  iterable : String
  kind_eq : token.kind = .forLoop
  header : LoopHeader token.text variableName iterable

theorem LoopTag.splitFor?_text (tag : LoopTag) :
    Node.splitFor? tag.token.text = some (tag.variableName, tag.iterable) :=
  splitFor?_eq_some_iff.mpr tag.header

theorem LoopTag.eq_of_token {tag other : LoopTag} (same : tag.token = other.token) :
    tag = other := by
  have split := tag.splitFor?_text
  rw [same, other.splitFor?_text] at split
  cases tag
  cases other
  simp_all

mutual

inductive Item where
  | plain (token : TokenOf .plain)
  | output (token : TokenOf .expression)
  | loop (opener : LoopTag) (body : List Item) (closer : TokenOf .endFor)
  | branch (opener : TokenOf .ifBranch) (body : List Item) (others : Branches)
      (closer : TokenOf .endIf)

inductive Branches where
  | none
  | elseBranch (mark : TokenOf .elseBranch) (body : List Item)
  | elseIf (mark : TokenOf .elseIf) (body : List Item) (others : Branches)

end

mutual

def Item.tokens : Item → List Token
  | .plain token => [token.val]
  | .output token => [token.val]
  | .loop opener body closer => opener.token :: (Item.allTokens body ++ [closer.val])
  | .branch opener body others closer =>
      opener.val :: (Item.allTokens body ++ (others.tokens ++ [closer.val]))

def Item.allTokens : List Item → List Token
  | [] => []
  | item :: items => item.tokens ++ Item.allTokens items

def Branches.tokens : Branches → List Token
  | .none => []
  | .elseBranch mark body => mark.val :: Item.allTokens body
  | .elseIf mark body others => mark.val :: (Item.allTokens body ++ others.tokens)

end

mutual

def Item.node : Item → Node
  | .plain token => .plain token.val.text
  | .output token => .output (.ofSource token.val.text) token.val.location
  | .loop opener body _ =>
      .forLoop opener.variableName (.ofSource opener.iterable) (Item.nodes body)
        opener.token.location
  | .branch opener body others _ =>
      .ifBranch (.ofSource opener.val.text) (Item.nodes body) others.alternatives
        opener.val.location

def Item.nodes : List Item → List Node
  | [] => []
  | item :: items => item.node :: Item.nodes items

def Branches.alternatives : Branches → Alternatives
  | .none => .none
  | .elseBranch _ body => .elseBranch (Item.nodes body)
  | .elseIf mark body others =>
      .elseIf (.ofSource mark.val.text) (Item.nodes body) others.alternatives mark.val.location

end

def Branches.marked : Branches → List (Token × List Token)
  | .none => []
  | .elseBranch mark body => [(mark.val, Item.allTokens body)]
  | .elseIf mark body others => (mark.val, Item.allTokens body) :: others.marked

theorem Branches.markedTokens_marked :
    (branches : Branches) → Node.Sections.markedTokens branches.marked = branches.tokens
  | .none => rfl
  | .elseBranch mark body => by simp [marked, tokens, Node.Sections.markedTokens]
  | .elseIf mark body others => by
      simp [marked, tokens, Node.Sections.markedTokens, others.markedTokens_marked]

namespace Node

/-- The search for the end of a loop passes over some tokens, however many loops are open. -/
def KeepsLoops (segment : List Token) : Prop :=
  ∀ depth rest, splitLoop? depth (segment ++ rest) =
    (splitLoop? depth rest).map (Prod.map (segment ++ ·) id)

theorem keepsLoops_nil : KeepsLoops [] := by
  intro depth rest
  rw [List.nil_append]
  cases splitLoop? depth rest <;> rfl

theorem KeepsLoops.append {segment others : List Token} (first : KeepsLoops segment)
    (second : KeepsLoops others) : KeepsLoops (segment ++ others) := by
  intro depth rest
  rw [List.append_assoc, first, second, Option.map_map]
  congr 1
  funext split
  simp [Prod.map]

theorem keepsLoops_single {token : Token} (notFor : token.kind ≠ .forLoop)
    (notEnd : token.kind ≠ .endFor) : KeepsLoops [token] := by
  intro depth rest
  rw [List.singleton_append, splitLoop?]
  split <;> simp_all

theorem KeepsLoops.loop {opener closer : Token} {body : List Token} (keeps : KeepsLoops body)
    (openerKind : opener.kind = .forLoop) (closerKind : closer.kind = .endFor) :
    KeepsLoops (opener :: (body ++ [closer])) := by
  intro depth rest
  have close : splitLoop? (depth + 1) (closer :: rest) =
      (splitLoop? depth rest).map (Prod.map (closer :: ·) id) := by
    simp [splitLoop?, closerKind]
  rw [List.cons_append, List.append_assoc, List.singleton_append, splitLoop?]
  simp only [openerKind]
  rw [keeps, close, Option.map_map, Option.map_map]
  congr 1
  funext split
  simp [Prod.map]

theorem KeepsLoops.splitLoop? {body : List Token} (keeps : KeepsLoops body) {closer : Token}
    (closerKind : closer.kind = .endFor) (rest : List Token) :
    Node.splitLoop? 0 (body ++ closer :: rest) = some (body, rest) := by
  rw [keeps, Node.splitLoop?]
  simp [closerKind]

def Sections.pushAll (segment : List Token) (sections : Sections) : Sections :=
  { sections with first := segment ++ sections.first }

def KeepsSections (low : Nat) (segment : List Token) : Prop :=
  ∀ opener depth elseSeen rest, low ≤ depth →
    splitSections opener depth elseSeen (segment ++ rest) =
      (splitSections opener depth elseSeen rest).map (.pushAll segment)

theorem keepsSections_nil (low : Nat) : KeepsSections low [] := by
  intro opener depth elseSeen rest _
  rw [List.nil_append]
  cases splitSections opener depth elseSeen rest <;> rfl

theorem KeepsSections.mono {low high : Nat} {segment : List Token}
    (keeps : KeepsSections low segment) (below : low ≤ high) : KeepsSections high segment := by
  intro opener depth elseSeen rest enough
  exact keeps opener depth elseSeen rest (Nat.le_trans below enough)

theorem map_pushAll (segment others : List Token) (sections : Except BlockError Sections) :
    (sections.map (Sections.pushAll others)).map (Sections.pushAll segment) =
      sections.map (Sections.pushAll (segment ++ others)) := by
  cases sections with
  | error error => rfl
  | ok sections => simp [Sections.pushAll]

theorem KeepsSections.append {low : Nat} {segment others : List Token}
    (first : KeepsSections low segment) (second : KeepsSections low others) :
    KeepsSections low (segment ++ others) := by
  intro opener depth elseSeen rest enough
  rw [List.append_assoc, first _ _ _ _ enough, second _ _ _ _ enough, map_pushAll]

theorem keepsSections_single {token : Token}
    (kind : token.kind ∈ [TokenKind.plain, .expression, .forLoop, .endFor]) :
    KeepsSections 0 [token] := by
  intro opener depth elseSeen rest _
  simp only [List.mem_cons, List.not_mem_nil, or_false] at kind
  rcases kind with kind | kind | kind | kind <;>
    simp only [List.singleton_append, splitSections, kind] <;> rfl

theorem keepsSections_mark {token : Token} (kind : token.kind = .elseIf ∨ token.kind = .elseBranch) :
    KeepsSections 1 [token] := by
  intro opener depth elseSeen rest enough
  obtain ⟨depth, rfl⟩ := Nat.exists_eq_add_of_le' enough
  rcases kind with kind | kind <;>
    simp only [List.singleton_append, splitSections, kind] <;> rfl

theorem KeepsSections.branch {opener closer : Token} {body : List Token}
    (keeps : KeepsSections 1 body) (openerKind : opener.kind = .ifBranch)
    (closerKind : closer.kind = .endIf) : KeepsSections 0 (opener :: (body ++ [closer])) := by
  intro location depth elseSeen rest _
  have close : splitSections location (depth + 1) elseSeen (closer :: rest) =
      (splitSections location depth elseSeen rest).map (.push closer) := by
    simp [splitSections, closerKind]
  simp only [List.cons_append, List.append_assoc, List.nil_append, splitSections, openerKind]
  rw [keeps _ _ _ _ (by omega), close]
  cases splitSections location depth elseSeen rest with
  | error error => rfl
  | ok sections => simp [Sections.push, Sections.pushAll]

end Node

open Node

mutual

theorem Item.keepsLoops : (item : Item) → KeepsLoops item.tokens
  | .plain token => keepsLoops_single (by simp [token.property]) (by simp [token.property])
  | .output token => keepsLoops_single (by simp [token.property]) (by simp [token.property])
  | .loop opener body closer => (Item.keepsLoops_all body).loop opener.kind_eq closer.property
  | .branch opener body others closer =>
      (keepsLoops_single (by simp [opener.property]) (by simp [opener.property])).append
        ((Item.keepsLoops_all body).append (others.keepsLoops.append
          (keepsLoops_single (by simp [closer.property]) (by simp [closer.property]))))

theorem Item.keepsLoops_all : (items : List Item) → KeepsLoops (Item.allTokens items)
  | [] => keepsLoops_nil
  | item :: items => item.keepsLoops.append (Item.keepsLoops_all items)

theorem Branches.keepsLoops : (branches : Branches) → KeepsLoops branches.tokens
  | .none => keepsLoops_nil
  | .elseBranch mark body =>
      (keepsLoops_single (by simp [mark.property]) (by simp [mark.property])).append
        (Item.keepsLoops_all body)
  | .elseIf mark body others =>
      (keepsLoops_single (by simp [mark.property]) (by simp [mark.property])).append
        ((Item.keepsLoops_all body).append others.keepsLoops)

end

mutual

theorem Item.keepsSections : (item : Item) → KeepsSections 0 item.tokens
  | .plain token => keepsSections_single (by simp [token.property])
  | .output token => keepsSections_single (by simp [token.property])
  | .loop opener body closer =>
      (keepsSections_single (by simp [opener.kind_eq])).append
        ((Item.keepsSections_all body).append (keepsSections_single (by simp [closer.property])))
  | .branch opener body others closer => by
      have inside := ((Item.keepsSections_all body).mono (Nat.zero_le 1)).append
        others.keepsSections
      have whole := inside.branch opener.property closer.property
      rw [Item.tokens, ← List.append_assoc]
      exact whole

theorem Item.keepsSections_all : (items : List Item) → KeepsSections 0 (Item.allTokens items)
  | [] => keepsSections_nil 0
  | item :: items => item.keepsSections.append (Item.keepsSections_all items)

theorem Branches.keepsSections : (branches : Branches) → KeepsSections 1 branches.tokens
  | .none => keepsSections_nil 1
  | .elseBranch mark body =>
      (keepsSections_mark (.inr mark.property)).append
        ((Item.keepsSections_all body).mono (Nat.zero_le 1))
  | .elseIf mark body others =>
      (keepsSections_mark (.inl mark.property)).append
        (((Item.keepsSections_all body).mono (Nat.zero_le 1)).append others.keepsSections)

end

end Stencil
