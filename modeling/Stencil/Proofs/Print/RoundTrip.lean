import Stencil.Engine
import Stencil.Proofs.Blocks.Parsing
import Stencil.Proofs.Print.Printer

/-!
Compiling what is printed. The tokens of a printed tree say what its parts say, and tokens that do
so are those of a derivation whose nodes are the tree again, in other places.
-/

namespace Stencil

open Token

mutual

def Node.unplaced : Node → Node
  | .plain text => .plain text
  | .output expression _ => .output expression default
  | .forLoop variableName iterable body _ =>
      .forLoop variableName iterable (Node.allUnplaced body) default
  | .ifBranch condition body alternatives _ =>
      .ifBranch condition (Node.allUnplaced body) alternatives.unplaced default

def Node.allUnplaced : List Node → List Node
  | [] => []
  | node :: nodes => node.unplaced :: Node.allUnplaced nodes

def Alternatives.unplaced : Alternatives → Alternatives
  | .none => .none
  | .elseBranch body => .elseBranch (Node.allUnplaced body)
  | .elseIf condition body alternatives _ =>
      .elseIf condition (Node.allUnplaced body) alternatives.unplaced default

end

@[simp] theorem Expression.ofSource_source (expression : Expression) :
    .ofSource expression.source = expression := by
  obtain ⟨source, compiled, same⟩ := expression
  subst same
  rfl

theorem loopHeader_printed {variableName iterable : String}
    (named : Text.isName variableName.toList = true)
    (trimmed : Text.trim iterable.toList = iterable.toList) :
    LoopHeader (variableName ++ " in " ++ iterable) variableName iterable := by
  have nameTrimmed := Text.trim_name named
  have solid : ' ' ∉ variableName.toList := Text.not_mem_of_isName named (by decide)
  refine ⟨variableName.toList, iterable.toList, ?_, Text.avoids_of_not_mem solid _, ?_, ?_, ?_⟩
  · rw [String.toList_append, String.toList_append, List.append_assoc]
    rfl
  · rw [nameTrimmed, named]
  · rw [nameTrimmed, String.ofList_toList]
  · rw [trimmed, String.ofList_toList]

theorem exists_token_of_content {token : Token} {part : Part} (said : token.content = part.content) :
    ∃ place : TokenOf part.content.1, place.val = token ∧ token.value = part.content.2 :=
  ⟨⟨token, congrArg Prod.fst said⟩, rfl, congrArg Prod.snd said⟩

mutual

theorem Node.exists_item : (node : Node) → node.Printable → (tokens : List Token) →
    tokens.map content = node.parts.map Part.content →
    ∃ item : Item, item.tokens = tokens ∧ item.node.unplaced = node.unplaced
  | .plain text, _, tokens, same => by
      obtain ⟨token, rfl, said⟩ := List.map_eq_singleton_iff.mp same
      obtain ⟨place, rfl, value⟩ := exists_token_of_content said
      refine ⟨.plain place, rfl, ?_⟩
      simp [Item.node, Node.unplaced, Token.text, value, Part.content]
  | .output expression location, _, tokens, same => by
      obtain ⟨token, rfl, said⟩ := List.map_eq_singleton_iff.mp same
      obtain ⟨place, rfl, value⟩ := exists_token_of_content said
      refine ⟨.output place, rfl, ?_⟩
      simp [Item.node, Node.unplaced, Token.text, value, Part.content]
  | .forLoop variableName iterable body location, printable, tokens, same => by
      obtain ⟨named, filled, enclosed, inside⟩ := printable
      simp only [Node.parts, List.map_cons, List.map_append, List.map_nil] at same
      obtain ⟨opener, rest, rfl, said, same⟩ := List.map_eq_cons_iff.mp same
      obtain ⟨bodyTokens, last, rfl, bodySame, same⟩ := List.map_eq_append_iff.mp same
      obtain ⟨closer, rfl, closerSaid⟩ := List.map_eq_singleton_iff.mp same
      obtain ⟨openerPlace, rfl, value⟩ := exists_token_of_content said
      obtain ⟨closerPlace, rfl, _⟩ := exists_token_of_content closerSaid
      obtain ⟨items, rfl, unplaced⟩ := Node.exists_items body inside bodyTokens bodySame
      have text : openerPlace.val.text = variableName ++ " in " ++ iterable.source := by
        simp [Token.text, value, Part.content]
      let tag : LoopTag := ⟨openerPlace.val, variableName, iterable.source, openerPlace.property,
        text ▸ loopHeader_printed named enclosed.1⟩
      refine ⟨.loop tag items closerPlace, rfl, ?_⟩
      simp [Item.node, Node.unplaced, tag, unplaced]
  | .ifBranch condition body alternatives location, printable, tokens, same => by
      obtain ⟨enclosed, inside, others⟩ := printable
      simp only [Node.parts, List.map_cons, List.map_append, List.map_nil] at same
      obtain ⟨opener, rest, rfl, said, same⟩ := List.map_eq_cons_iff.mp same
      obtain ⟨bodyTokens, rest, rfl, bodySame, same⟩ := List.map_eq_append_iff.mp same
      obtain ⟨otherTokens, last, rfl, otherSame, same⟩ := List.map_eq_append_iff.mp same
      obtain ⟨closer, rfl, closerSaid⟩ := List.map_eq_singleton_iff.mp same
      obtain ⟨openerPlace, rfl, value⟩ := exists_token_of_content said
      obtain ⟨closerPlace, rfl, _⟩ := exists_token_of_content closerSaid
      obtain ⟨items, rfl, unplaced⟩ := Node.exists_items body inside bodyTokens bodySame
      obtain ⟨branches, rfl, otherUnplaced⟩ :=
        alternatives.exists_branches others otherTokens otherSame
      refine ⟨.branch openerPlace items branches closerPlace, rfl, ?_⟩
      simp [Item.node, Node.unplaced, Token.text, value, Part.content, unplaced, otherUnplaced]

theorem Node.exists_items : (nodes : List Node) → Node.AllPrintable nodes → (tokens : List Token) →
    tokens.map content = (Node.allParts nodes).map Part.content →
    ∃ items, Item.allTokens items = tokens ∧
      Node.allUnplaced (Item.nodes items) = Node.allUnplaced nodes
  | [], _, tokens, same => by
      obtain rfl := List.map_eq_nil_iff.mp same
      exact ⟨[], rfl, rfl⟩
  | node :: nodes, printable, tokens, same => by
      rw [Node.allParts, List.map_append] at same
      obtain ⟨front, back, rfl, frontSame, backSame⟩ := List.map_eq_append_iff.mp same
      obtain ⟨item, rfl, unplaced⟩ := node.exists_item printable.1 front frontSame
      obtain ⟨items, rfl, laterUnplaced⟩ := Node.exists_items nodes printable.2.2 back backSame
      refine ⟨item :: items, rfl, ?_⟩
      simp [Item.nodes, Node.allUnplaced, unplaced, laterUnplaced]

theorem Alternatives.exists_branches : (alternatives : Alternatives) → alternatives.Printable →
    (tokens : List Token) → tokens.map content = alternatives.parts.map Part.content →
    ∃ branches : Branches, branches.tokens = tokens ∧
      branches.alternatives.unplaced = alternatives.unplaced
  | .none, _, tokens, same => by
      obtain rfl := List.map_eq_nil_iff.mp same
      exact ⟨.none, rfl, rfl⟩
  | .elseBranch body, printable, tokens, same => by
      simp only [Alternatives.parts, List.map_cons] at same
      obtain ⟨mark, bodyTokens, rfl, said, bodySame⟩ := List.map_eq_cons_iff.mp same
      obtain ⟨place, rfl, _⟩ := exists_token_of_content said
      obtain ⟨items, rfl, unplaced⟩ := Node.exists_items body printable bodyTokens bodySame
      refine ⟨.elseBranch place items, rfl, ?_⟩
      simp [Branches.alternatives, Alternatives.unplaced, unplaced]
  | .elseIf condition body alternatives location, printable, tokens, same => by
      obtain ⟨enclosed, inside, others⟩ := printable
      simp only [Alternatives.parts, List.map_cons, List.map_append] at same
      obtain ⟨mark, rest, rfl, said, same⟩ := List.map_eq_cons_iff.mp same
      obtain ⟨bodyTokens, otherTokens, rfl, bodySame, otherSame⟩ := List.map_eq_append_iff.mp same
      obtain ⟨place, rfl, value⟩ := exists_token_of_content said
      obtain ⟨items, rfl, unplaced⟩ := Node.exists_items body inside bodyTokens bodySame
      obtain ⟨branches, rfl, otherUnplaced⟩ :=
        alternatives.exists_branches others otherTokens otherSame
      refine ⟨.elseIf place items branches, rfl, ?_⟩
      simp [Branches.alternatives, Alternatives.unplaced, Token.text, value, Part.content, unplaced,
        otherUnplaced]

end

theorem exists_scan_printAll (load : Loader) (name : String) {nodes : List Node}
    (printable : Node.AllPrintable nodes) :
    ∃ tokens, Token.scan {} load name (Node.printAll nodes) = .ok tokens ∧
      tokens.map content = (Node.allParts nodes).map Part.content := by
  have writable := Node.writable_allParts nodes printable
  have separated := Node.separated_allParts nodes printable
  have segments : (Node.allParts nodes).map Part.segment =
      ((Node.allParts nodes).map Part.content).map Segment.ofContent := by
    rw [List.map_map]
    rfl
  have printed : Node.printAll nodes = String.ofList
      (Segment.sources {} (((Node.allParts nodes).map Part.content).map Segment.ofContent)) := by
    rw [← segments, ← Node.toList_printAll, String.ofList_toList]
  rw [printed]
  exact Segment.exists_scan_ofContents load name (List.forall_mem_map.mpr writable)
    (segments ▸ separated)

/-- Compiling a printed tree gives the tree back, up to the places of its tags. -/
theorem compile_printAll (engine : Engine) (defaults : engine.tags = {}) (name : String)
    (nodes : List Node) (printable : Node.AllPrintable nodes) :
    ∃ template, engine.compile name (Node.printAll nodes) = .ok template ∧
      Node.allUnplaced template = Node.allUnplaced nodes := by
  obtain ⟨tokens, scanned, said⟩ := exists_scan_printAll engine.load name printable
  obtain ⟨items, rfl, unplaced⟩ := Node.exists_items nodes printable tokens said
  have parsed := parse_eq_ok_iff_items.mpr ⟨items, rfl, rfl⟩
  refine ⟨Item.nodes items, ?_, unplaced⟩
  rw [Engine.compile, Template.compile, defaults, scanned]
  simp only [parsed]
  rfl

/-- A bracket right behind a tag, ` in ` inside an expression, an empty condition, and an `else` with
a text that starts with `if`. -/
def nested : Template :=
  [.plain "] ", .output (.ofSource "title") default,
    .forLoop "row" (.ofSource "left in right")
      [.output (.ofSource "row[0]") default, .plain "]",
        .ifBranch (.ofSource "") [] (.elseIf (.ofSource "row") [.plain "!] "] (.elseBranch []) default)
          default]
      default,
    .ifBranch (.ofSource "ready") [.plain "yes"] (.elseBranch [.plain "if not"]) default]

theorem compile_nested :
    ({} : Engine).tags = {} ∧ Node.AllPrintable nested ∧
      ∃ template, ({} : Engine).compile "page" (Node.printAll nested) = .ok template ∧
        Node.allUnplaced template = Node.allUnplaced nested := by
  have printable : Node.AllPrintable nested := by
    simp only [nested, Node.AllPrintable, Node.Printable, Alternatives.Printable,
      Expression.ofSource, Node.IsPlain, List.head?_cons, List.head?_nil, Option.mem_some_iff,
      forall_eq', Option.not_mem_none, IsEmpty.forall_iff, implies_true, and_true, and_false,
      not_false_eq_true, true_and]
    decide +kernel
  exact ⟨rfl, printable, compile_printAll {} rfl "page" nested printable⟩

end Stencil
