import Stencil.Proofs.Blocks.Parsing

/-!
The tree of a template against its tokens. Laid out flat, a tree gives back the tags it was read
from, in order, and keeps what each of them says. Blocks that cross and dividing tags inside another
block are refused wherever they stand.
-/

namespace Stencil

open Node

inductive Part where
  | plain (text : String)
  | output (expression : Expression) (location : Location)
  | loopStart (variableName : String) (iterable : Expression) (location : Location)
  | loopEnd
  | branchStart (condition : Expression) (location : Location)
  | elseIf (condition : Expression) (location : Location)
  | elseStart
  | branchEnd

namespace Part

def kind : Part → TokenKind
  | .plain _ => .plain
  | .output _ _ => .expression
  | .loopStart _ _ _ => .forLoop
  | .loopEnd => .endFor
  | .branchStart _ _ => .ifBranch
  | .elseIf _ _ => .elseIf
  | .elseStart => .elseBranch
  | .branchEnd => .endIf

def Keeps (part : Part) (token : Token) : Prop :=
  part.kind = token.kind ∧
    match part with
    | .plain text => text = token.text
    | .output expression location =>
        expression.source = token.text ∧ location = token.location
    | .loopStart variableName iterable location =>
        LoopHeader token.text variableName iterable.source ∧ location = token.location
    | .branchStart condition location =>
        condition.source = token.text ∧ location = token.location
    | .elseIf condition location => condition.source = token.text ∧ location = token.location
    | .loopEnd => True
    | .elseStart => True
    | .branchEnd => True

end Part

mutual

def Node.parts : Node → List Part
  | .plain text => [.plain text]
  | .output expression location => [.output expression location]
  | .forLoop variableName iterable body location =>
      .loopStart variableName iterable location :: (Node.allParts body ++ [.loopEnd])
  | .ifBranch condition body alternatives location =>
      .branchStart condition location ::
        (Node.allParts body ++ (alternatives.parts ++ [.branchEnd]))

def Node.allParts : List Node → List Part
  | [] => []
  | node :: nodes => node.parts ++ Node.allParts nodes

def Alternatives.parts : Alternatives → List Part
  | .none => []
  | .elseBranch body => .elseStart :: Node.allParts body
  | .elseIf condition body alternatives location =>
      .elseIf condition location :: (Node.allParts body ++ alternatives.parts)

end

mutual

theorem Item.keeps_parts : (item : Item) → List.Forall₂ Part.Keeps item.node.parts item.tokens
  | .plain token => .cons ⟨token.property.symm, rfl⟩ .nil
  | .output token => .cons ⟨token.property.symm, rfl, rfl⟩ .nil
  | .loop opener body closer =>
      .cons ⟨opener.kind_eq.symm, opener.header, rfl⟩
        (List.rel_append (Item.keeps_allParts body) (.cons ⟨closer.property.symm, trivial⟩ .nil))
  | .branch opener body branches closer =>
      .cons ⟨opener.property.symm, rfl, rfl⟩
        (List.rel_append (Item.keeps_allParts body)
          (List.rel_append branches.keeps_parts (.cons ⟨closer.property.symm, trivial⟩ .nil)))

theorem Item.keeps_allParts :
    (items : List Item) → List.Forall₂ Part.Keeps (allParts (Item.nodes items)) (Item.allTokens items)
  | [] => .nil
  | item :: items => List.rel_append item.keeps_parts (Item.keeps_allParts items)

theorem Branches.keeps_parts :
    (branches : Branches) → List.Forall₂ Part.Keeps branches.alternatives.parts branches.tokens
  | .none => .nil
  | .elseBranch mark body => .cons ⟨mark.property.symm, trivial⟩ (Item.keeps_allParts body)
  | .elseIf mark body others =>
      .cons ⟨mark.property.symm, rfl, rfl⟩
        (List.rel_append (Item.keeps_allParts body) others.keeps_parts)

end

def nestStep (blocks : List TokenKind) (token : Token) : Option (List TokenKind) :=
  match token.kind, blocks with
  | .plain, blocks => some blocks
  | .expression, blocks => some blocks
  | .forLoop, blocks => some (.forLoop :: blocks)
  | .ifBranch, blocks => some (.ifBranch :: blocks)
  | .endFor, .forLoop :: blocks => some blocks
  | .elseIf, .ifBranch :: blocks => some (.ifBranch :: blocks)
  | .elseBranch, .ifBranch :: blocks => some (.ifBranch :: blocks)
  | .endIf, .ifBranch :: blocks => some blocks
  | _, _ => none

mutual

theorem Item.nest_tokens (blocks : List TokenKind) :
    (item : Item) → item.tokens.foldlM nestStep blocks = some blocks
  | .plain token => by simp [Item.tokens, nestStep, token.property]
  | .output token => by simp [Item.tokens, nestStep, token.property]
  | .loop opener body closer => by
      simp [Item.tokens, nestStep, opener.kind_eq, closer.property, Item.nest_allTokens _ body]
  | .branch opener body branches closer => by
      simp [Item.tokens, nestStep, opener.property, closer.property, Item.nest_allTokens _ body,
        branches.nest_tokens]

theorem Item.nest_allTokens (blocks : List TokenKind) :
    (items : List Item) → (Item.allTokens items).foldlM nestStep blocks = some blocks
  | [] => rfl
  | item :: items => by
      simp [Item.allTokens, item.nest_tokens, Item.nest_allTokens blocks items]

theorem Branches.nest_tokens (blocks : List TokenKind) :
    (branches : Branches) →
      branches.tokens.foldlM nestStep (.ifBranch :: blocks) = some (.ifBranch :: blocks)
  | .none => rfl
  | .elseBranch mark body => by
      simp [Branches.tokens, nestStep, mark.property, Item.nest_allTokens _ body]
  | .elseIf mark body others => by
      simp [Branches.tokens, nestStep, mark.property, Item.nest_allTokens _ body,
        others.nest_tokens]

end

/-- A block is still open behind a segment of its tokens, so that a tag that does not fit into it
spoils the whole template. -/
theorem parse_ne_ok_of_misfit (block : TokenKind) {before segment after : List Token}
    {opener misfit : Token} {nodes : List Node}
    (opens : ∀ blocks, nestStep blocks opener = some (block :: blocks))
    (stays : ∀ blocks, segment.foldlM nestStep (block :: blocks) = some (block :: blocks))
    (misfits : ∀ blocks, nestStep (block :: blocks) misfit = none) :
    parse (before ++ opener :: (segment ++ misfit :: after)) ≠ .ok nodes := by
  intro parsed
  obtain ⟨items, same, _⟩ := parse_eq_ok_iff_items.mp parsed
  have nested := Item.nest_allTokens [] items
  rw [same, List.foldlM_append] at nested
  obtain ⟨blocks, _, nested⟩ := Option.bind_eq_some_iff.mp nested
  simp [opens, stays, misfits] at nested

/-- A list of tokens is parsed exactly if it has a derivation, of which there is only one; the tree
is that of the derivation and keeps each token in its place. In particular a branch that a loop
tag closes and a loop that a branch tag divides or closes are refused. -/
theorem parse_blockGrammar_exact (tokens : List Token) :
    (∀ nodes, parse tokens = .ok nodes ↔
      ∃ items, Item.allTokens items = tokens ∧ Item.nodes items = nodes) ∧
    (∀ items others, Item.allTokens items = tokens → Item.allTokens others = tokens →
      items = others) ∧
    (∀ nodes, parse tokens = .ok nodes → List.Forall₂ Part.Keeps (allParts nodes) tokens) ∧
    (∀ before opener body branches closer after, opener.kind = .ifBranch →
      closer.kind = .endFor →
      tokens = before ++ opener ::
        (Item.allTokens body ++ Branches.tokens branches ++ closer :: after) →
      ∀ nodes, parse tokens ≠ .ok nodes) ∧
    (∀ before opener body mark after, opener.kind = .forLoop →
      mark.kind ∈ [TokenKind.elseIf, .elseBranch, .endIf] →
      tokens = before ++ opener :: (Item.allTokens body ++ mark :: after) →
      ∀ nodes, parse tokens ≠ .ok nodes) := by
  refine ⟨fun nodes => parse_eq_ok_iff_items, ?_, ?_, ?_, ?_⟩
  · intro items others same otherSame
    exact Item.eq_of_allTokens items others (same.trans otherSame.symm)
  · intro nodes parsed
    obtain ⟨items, rfl, rfl⟩ := parse_eq_ok_iff_items.mp parsed
    exact Item.keeps_allParts items
  · rintro before opener body branches closer after openerKind closerKind rfl nodes
    refine parse_ne_ok_of_misfit .ifBranch ?_ ?_ ?_
    · simp [nestStep, openerKind]
    · simp [Item.nest_allTokens _ body, branches.nest_tokens]
    · simp [nestStep, closerKind]
  · rintro before opener body mark after openerKind markKind rfl nodes
    refine parse_ne_ok_of_misfit .forLoop ?_ (fun _ => Item.nest_allTokens _ body) ?_
    · simp [nestStep, openerKind]
    · simp only [List.mem_cons, List.not_mem_nil, or_false] at markKind
      rcases markKind with kind | kind | kind <;> simp [nestStep, kind]

end Stencil
