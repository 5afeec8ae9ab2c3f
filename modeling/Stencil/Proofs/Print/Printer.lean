import Stencil.Proofs.Blocks.Grammar
import Stencil.Proofs.Print.Tags

/-!
Printing templates. A tree is written out with the default delimiters, one tag for each part of it,
and what is written is what its parts say, segment by segment.
-/

namespace Stencil

open Token

mutual

def Node.print : Node → String
  | .plain text => text
  | .output expression _ => "[[ " ++ expression.source ++ " ]]"
  | .forLoop variableName iterable body _ =>
      "[! for " ++ variableName ++ " in " ++ iterable.source ++ " !]" ++
        (Node.printAll body ++ "[! efor !]")
  | .ifBranch condition body alternatives _ =>
      "[! if " ++ condition.source ++ " !]" ++
        (Node.printAll body ++ (alternatives.print ++ "[! eif !]"))

def Node.printAll : List Node → String
  | [] => ""
  | node :: nodes => node.print ++ Node.printAll nodes

def Alternatives.print : Alternatives → String
  | .none => ""
  | .elseBranch body => "[! else !]" ++ Node.printAll body
  | .elseIf condition body alternatives _ =>
      "[! else if " ++ condition.source ++ " !]" ++ (Node.printAll body ++ alternatives.print)

end

def Node.IsPlain : Node → Prop
  | .plain _ => True
  | _ => False

mutual

/-- The text of a node can be read as that node: no tag starts in plain text, expressions are
trimmed and do not close their tags, and a loop has a variable and something to go through. -/
def Node.Printable : Node → Prop
  | .plain text => Unopened text
  | .output expression _ => Enclosed .expression expression.source
  | .forLoop variableName iterable body _ =>
      Text.isName variableName.toList = true ∧ iterable.source ≠ "" ∧
        Enclosed .control iterable.source ∧ Node.AllPrintable body
  | .ifBranch condition body alternatives _ =>
      Enclosed .control condition.source ∧ Node.AllPrintable body ∧ alternatives.Printable

def Node.AllPrintable : List Node → Prop
  | [] => True
  | node :: nodes =>
      node.Printable ∧ (∀ next ∈ nodes.head?, ¬ (node.IsPlain ∧ next.IsPlain)) ∧
        Node.AllPrintable nodes

def Alternatives.Printable : Alternatives → Prop
  | .none => True
  | .elseBranch body => Node.AllPrintable body
  | .elseIf condition body alternatives _ =>
      Enclosed .control condition.source ∧ Node.AllPrintable body ∧ alternatives.Printable

end

namespace Part

def content : Part → TokenKind × Option String
  | .plain text => (.plain, some text)
  | .output expression _ => (.expression, some expression.source)
  | .loopStart variableName iterable _ => (.forLoop, some (variableName ++ " in " ++ iterable.source))
  | .loopEnd => (.endFor, none)
  | .branchStart condition _ => (.ifBranch, some condition.source)
  | .elseIf condition _ => (.elseIf, some condition.source)
  | .elseStart => (.elseBranch, none)
  | .branchEnd => (.endIf, none)

def segment (part : Part) : Segment := .ofContent part.content

end Part

theorem enclosed_header {variableName iterable : String}
    (named : Text.isName variableName.toList = true) (filled : iterable ≠ "")
    (enclosed : Enclosed .control iterable) :
    Enclosed .control (variableName ++ " in " ++ iterable) := by
  obtain ⟨trimmed, absent⟩ := enclosed
  have whole : (variableName ++ " in " ++ iterable).toList =
      variableName.toList ++ (" in ".toList ++ iterable.toList) := by
    rw [String.toList_append, String.toList_append, List.append_assoc]
  have nonempty : iterable.toList ≠ [] := by simpa using filled
  rw [Enclosed, whole]
  constructor
  · have first := Text.trim_eq_self_iff.mp (Text.trim_name named)
    have last := Text.trim_eq_self_iff.mp trimmed
    refine Text.trim_eq_self_iff.mpr ⟨?_, ?_⟩
    · cases name : variableName.toList with
      | nil => simp [name, Text.isName] at named
      | cons letter letters =>
          rw [name] at first
          simpa using first.1
    · rw [List.getLast?_append_of_ne_nil _ (by simp), List.getLast?_append_of_ne_nil _ nonempty]
      exact last.2
  · have filledStop : TagKind.control.closing ≠ [] := by decide
    rw [← Text.avoids_nil_iff filledStop] at absent ⊢
    rw [Text.avoids_append, Text.avoids_append]
    refine ⟨?_, ?_, absent⟩
    · exact Text.avoids_of_not_mem (Text.not_mem_of_isName named (by decide)) _
    · exact Text.avoids_of_not_mem (by decide) _

mutual

theorem Node.toList_print : (node : Node) →
    node.print.toList = Segment.sources {} (node.parts.map Part.segment)
  | .plain text => by
      simp [Node.print, Node.parts, Part.segment, Part.content, Segment.ofContent, Segment.source]
  | .output expression _ => by
      simp [Node.print, Node.parts, Part.segment, Part.content, Segment.ofContent, Segment.source,
        TagKind.opening, TagKind.closing]
  | .forLoop variableName iterable body _ => by
      simp [Node.print, Node.parts, Part.segment, Part.content, Segment.ofContent, Segment.source,
        TagKind.opening, TagKind.closing, TokenKind.word, Node.toList_printAll body]
  | .ifBranch condition body alternatives _ => by
      simp [Node.print, Node.parts, Part.segment, Part.content, Segment.ofContent, Segment.source,
        TagKind.opening, TagKind.closing, TokenKind.word, Node.toList_printAll body,
        alternatives.toList_print]

theorem Node.toList_printAll : (nodes : List Node) →
    (Node.printAll nodes).toList = Segment.sources {} ((Node.allParts nodes).map Part.segment)
  | [] => rfl
  | node :: nodes => by
      rw [Node.printAll, Node.allParts, String.toList_append, node.toList_print,
        Node.toList_printAll nodes, List.map_append, Segment.sources_append]

theorem Alternatives.toList_print : (alternatives : Alternatives) →
    alternatives.print.toList = Segment.sources {} (alternatives.parts.map Part.segment)
  | .none => rfl
  | .elseBranch body => by
      simp [Alternatives.print, Alternatives.parts, Part.segment, Part.content, Segment.ofContent,
        Segment.source, TagKind.opening, TagKind.closing, TokenKind.word, Node.toList_printAll body]
  | .elseIf condition body alternatives _ => by
      simp [Alternatives.print, Alternatives.parts, Part.segment, Part.content, Segment.ofContent,
        Segment.source, TagKind.opening, TagKind.closing, TokenKind.word, Node.toList_printAll body,
        alternatives.toList_print]

end

/-! The parts of a printable tree can be written one behind the other. -/

mutual

theorem Node.writable_parts : (node : Node) → node.Printable →
    ∀ part ∈ node.parts, Writable part.content
  | .plain _, printable => List.forall_mem_singleton.mpr printable
  | .output _ _, printable => List.forall_mem_singleton.mpr printable
  | .forLoop variableName iterable body _, printable => by
      obtain ⟨named, filled, enclosed, inside⟩ := printable
      have opener : Writable (Part.loopStart variableName iterable default).content :=
        ⟨rfl, enclosed_header named filled enclosed⟩
      have closer : Writable Part.loopEnd.content := by simp [Part.content, Writable]
      have later := Node.writable_allParts body inside
      simp only [Node.parts, List.forall_mem_cons, List.forall_mem_append]
      exact ⟨opener, later, closer, by simp⟩
  | .ifBranch condition body alternatives _, printable => by
      obtain ⟨enclosed, inside, others⟩ := printable
      have opener : Writable (Part.branchStart condition default).content := ⟨rfl, enclosed⟩
      have closer : Writable Part.branchEnd.content := by simp [Part.content, Writable]
      have first := Node.writable_allParts body inside
      have later := alternatives.writable_parts others
      simp only [Node.parts, List.forall_mem_cons, List.forall_mem_append]
      exact ⟨opener, first, later, closer, by simp⟩

theorem Node.writable_allParts : (nodes : List Node) → Node.AllPrintable nodes →
    ∀ part ∈ Node.allParts nodes, Writable part.content
  | [], _ => by simp [Node.allParts]
  | node :: nodes, printable => by
      have first := node.writable_parts printable.1
      have later := Node.writable_allParts nodes printable.2.2
      simp only [Node.allParts, List.forall_mem_append]
      exact ⟨first, later⟩

theorem Alternatives.writable_parts : (alternatives : Alternatives) → alternatives.Printable →
    ∀ part ∈ alternatives.parts, Writable part.content
  | .none, _ => by simp [Alternatives.parts]
  | .elseBranch body, printable => by
      have mark : Writable Part.elseStart.content := by simp [Part.content, Writable]
      have later := Node.writable_allParts body printable
      simp only [Alternatives.parts, List.forall_mem_cons]
      exact ⟨mark, later⟩
  | .elseIf condition body alternatives _, printable => by
      obtain ⟨enclosed, inside, others⟩ := printable
      have mark : Writable (Part.elseIf condition default).content := ⟨rfl, enclosed⟩
      have first := Node.writable_allParts body inside
      have later := alternatives.writable_parts others
      simp only [Alternatives.parts, List.forall_mem_cons, List.forall_mem_append]
      exact ⟨mark, first, later⟩

end

theorem Segment.separated_around {front back : List Segment} {tag : Segment}
    (solid : ¬ tag.IsPlain) :
    Segment.Separated (front ++ tag :: back) ↔
      Segment.Separated front ∧ Segment.Separated back := by
  simp [Segment.Separated, List.isChain_append, List.isChain_cons, solid]

theorem Segment.separated_behind {back : List Segment} {tag : Segment} (solid : ¬ tag.IsPlain) :
    Segment.Separated (tag :: back) ↔ Segment.Separated back := by
  simp [Segment.Separated, List.isChain_cons, solid]

theorem Node.exists_parts_cons (node : Node) :
    ∃ part parts, node.parts = part :: parts ∧ (part.segment.IsPlain → node.IsPlain) := by
  cases node with
  | plain text => exact ⟨_, _, rfl, fun _ => trivial⟩
  | output expression location => exact ⟨_, _, rfl, id⟩
  | forLoop variableName iterable body location => exact ⟨_, _, rfl, id⟩
  | ifBranch condition body alternatives location => exact ⟨_, _, rfl, id⟩

mutual

/-- Only plain text leaves open what may follow: every other node ends with a tag. -/
theorem Node.separated_parts {back : List Segment} (separated : Segment.Separated back) :
    (node : Node) → node.Printable →
      (node.IsPlain → ∀ segment ∈ back.head?, ¬ segment.IsPlain) →
      Segment.Separated (node.parts.map Part.segment ++ back)
  | .plain text, _, apart => by
      apply List.isChain_cons.mpr
      refine ⟨?_, separated⟩
      intro next head both
      exact apart trivial next head both.2
  | .output expression location, _, _ => by
      have tag : ¬ (Part.output expression location).segment.IsPlain := id
      exact (Segment.separated_behind tag).mpr separated
  | .forLoop variableName iterable body location, printable, _ => by
      have opener : ¬ (Part.loopStart variableName iterable location).segment.IsPlain := id
      have closer : ¬ Part.loopEnd.segment.IsPlain := id
      have inside := Node.separated_allParts body printable.2.2.2
      have rest := (Segment.separated_around closer).mpr ⟨inside, separated⟩
      have whole := (Segment.separated_behind opener).mpr rest
      simpa [Node.parts] using whole
  | .ifBranch condition body alternatives location, printable, _ => by
      have opener : ¬ (Part.branchStart condition location).segment.IsPlain := id
      have inside := Node.separated_allParts body printable.2.1
      have others := alternatives.separated_parts inside separated printable.2.2
      have whole := (Segment.separated_behind opener).mpr others
      simpa [Node.parts] using whole

theorem Node.separated_allParts : (nodes : List Node) → Node.AllPrintable nodes →
    Segment.Separated ((Node.allParts nodes).map Part.segment)
  | [], _ => .nil
  | node :: nodes, printable => by
      obtain ⟨first, apart, later⟩ := printable
      have separated := Node.separated_allParts nodes later
      rw [Node.allParts, List.map_append]
      apply node.separated_parts separated first
      intro plain segment head plainHead
      cases nodes with
      | nil => simp [Node.allParts] at head
      | cons next nodes =>
          obtain ⟨part, parts, whole, plainPart⟩ := next.exists_parts_cons
          simp only [Node.allParts, whole, List.cons_append, List.map_cons, List.head?_cons,
            Option.mem_some_iff] at head
          subst head
          exact apart next rfl ⟨plain, plainPart plainHead⟩

theorem Alternatives.separated_parts {front back : List Segment}
    (before : Segment.Separated front) (after : Segment.Separated back) :
    (alternatives : Alternatives) → alternatives.Printable →
      Segment.Separated
        (front ++ (alternatives.parts.map Part.segment ++ Part.branchEnd.segment :: back))
  | .none, _ => (Segment.separated_around id).mpr ⟨before, after⟩
  | .elseBranch body, printable => by
      have mark : ¬ Part.elseStart.segment.IsPlain := id
      have closer : ¬ Part.branchEnd.segment.IsPlain := id
      have inside := Node.separated_allParts body printable
      have rest := (Segment.separated_around closer).mpr ⟨inside, after⟩
      exact (Segment.separated_around mark).mpr ⟨before, rest⟩
  | .elseIf condition body alternatives location, printable => by
      have mark : ¬ (Part.elseIf condition location).segment.IsPlain := id
      have inside := Node.separated_allParts body printable.2.1
      have others := alternatives.separated_parts inside after printable.2.2
      have whole := (Segment.separated_around mark).mpr ⟨before, others⟩
      simpa [Alternatives.parts] using whole

end

end Stencil
