import Stencil.Proofs.Blocks.Derivation
import Stencil.Proofs.Blocks.Ranges
import Stencil.Proofs.Token.Letters

/-!
The tree of tokens whose plain text is divided letter by letter is the tree of the tokens, divided
in the same way: plain text is never looked at when blocks are matched.
-/

namespace Stencil

def Token.ofContent (content : TokenKind × Option String) : Token :=
  ⟨content.1, content.2, default⟩

def Token.scatter (token : Token) : List Token := (letters token.content).map ofContent

def Token.scatterAll (tokens : List Token) : List Token := tokens.flatMap scatter

namespace Token

@[simp] theorem scatterAll_nil : scatterAll [] = [] := rfl

@[simp] theorem scatterAll_cons (token : Token) (tokens : List Token) :
    scatterAll (token :: tokens) = token.scatter ++ scatterAll tokens := by
  simp [scatterAll]

theorem scatterAll_eq (tokens : List Token) :
    scatterAll tokens = (spread (tokens.map content)).map ofContent := by
  induction tokens with
  | nil => rfl
  | cons token tokens ih => simp [ih, scatter]

theorem scatter_plain {token : Token} (kind : token.kind = .plain) :
    token.scatter = token.text.toList.map fun letter =>
      ⟨.plain, some (String.singleton letter), default⟩ := by
  obtain ⟨_, value, location⟩ := token
  cases kind
  simp [scatter, content, letters, ofContent, text]

theorem kind_scatter {token : Token} (kind : token.kind = .plain) :
    ∀ letter ∈ token.scatter, letter.kind = .plain := by
  rw [scatter_plain kind]
  simp

theorem scatter_tag {token : Token} (kind : token.kind ≠ .plain) :
    token.scatter = [ofContent token.content] := by
  obtain ⟨sort, value, location⟩ := token
  cases sort with
  | plain => exact absurd rfl kind
  | _ => rfl

end Token

mutual

def Node.scatter : Node → List Node
  | .plain text => text.toList.map fun letter => .plain (String.singleton letter)
  | .output expression _ => [.output expression default]
  | .forLoop variableName iterable body _ =>
      [.forLoop variableName iterable (Node.scatterAll body) default]
  | .ifBranch condition body alternatives _ =>
      [.ifBranch condition (Node.scatterAll body) alternatives.scatter default]

def Node.scatterAll : List Node → List Node
  | [] => []
  | node :: nodes => node.scatter ++ Node.scatterAll nodes

def Alternatives.scatter : Alternatives → Alternatives
  | .none => .none
  | .elseBranch body => .elseBranch (Node.scatterAll body)
  | .elseIf condition body alternatives _ =>
      .elseIf condition (Node.scatterAll body) alternatives.scatter default

end

namespace Node

open Token (ofContent)

def recast {α β : Type} (change : α → β) : Except BlockError α → Except BlockError β
  | .ok value => .ok (change value)
  | .error error => .error ⟨error.fault, default⟩

theorem keepsLoops_plain {front : List Token} (plain : ∀ token ∈ front, token.kind = .plain) :
    KeepsLoops front := by
  induction front with
  | nil => exact keepsLoops_nil
  | cons token front ih =>
      have kind := plain token (List.mem_cons_self ..)
      have later := ih fun other member => plain other (List.mem_cons_of_mem _ member)
      exact (keepsLoops_single (by simp [kind]) (by simp [kind])).append later

theorem keepsSections_plain {front : List Token}
    (plain : ∀ token ∈ front, token.kind = .plain) : KeepsSections 0 front := by
  induction front with
  | nil => exact keepsSections_nil 0
  | cons token front ih =>
      have kind := plain token (List.mem_cons_self ..)
      have later := ih fun other member => plain other (List.mem_cons_of_mem _ member)
      exact (keepsSections_single (by simp [kind])).append later

theorem prod_scatter_cons (token : Token) :
    Prod.map Token.scatterAll Token.scatterAll ∘ Prod.map (token :: ·) id =
      Prod.map (token.scatter ++ ·) id ∘ Prod.map Token.scatterAll Token.scatterAll := by
  funext split
  simp [Prod.map]

theorem splitLoop?_scatter (depth : Nat) (tokens : List Token) :
    splitLoop? depth (Token.scatterAll tokens) =
      (splitLoop? depth tokens).map (Prod.map Token.scatterAll Token.scatterAll) := by
  induction tokens generalizing depth with
  | nil => rfl
  | cons token tokens ih =>
      by_cases plain : token.kind = .plain
      · rw [Token.scatterAll_cons, keepsLoops_plain (Token.kind_scatter plain), ih]
        simp only [splitLoop?, plain, Option.map_map, prod_scatter_cons]
      · have tag := Token.scatter_tag plain
        have kind : (ofContent token.content).kind = token.kind := rfl
        have pushed := prod_scatter_cons token
        rw [tag] at pushed
        rw [Token.scatterAll_cons, tag, List.singleton_append, splitLoop?, splitLoop?, kind]
        split
        · simp only [ih, Option.map_map, pushed]
          rfl
        · split
          · rfl
          · simp only [ih, Option.map_map, pushed]
            rfl
        · simp only [ih, Option.map_map, pushed]
          rfl

def Sections.scatter (sections : Sections) : Sections where
  first := Token.scatterAll sections.first
  marked := sections.marked.map fun (mark, inside) =>
    (ofContent mark.content, Token.scatterAll inside)
  after := Token.scatterAll sections.after

theorem recast_push (token : Token) (found : Except BlockError Sections) :
    recast Sections.scatter (found.map (Sections.push token)) =
      (recast Sections.scatter found).map (Sections.pushAll token.scatter) := by
  cases found with
  | error error => rfl
  | ok sections => simp [recast, Sections.scatter, Sections.push, Sections.pushAll]

theorem recast_divide (token : Token) (found : Except BlockError Sections) :
    recast Sections.scatter (found.map (Sections.divide token)) =
      (recast Sections.scatter found).map (Sections.divide (ofContent token.content)) := by
  cases found with
  | error error => rfl
  | ok sections => simp [recast, Sections.scatter, Sections.divide]

theorem splitSections_scatter (opener : Location) (depth : Nat) (elseSeen : Bool)
    (tokens : List Token) :
    splitSections default depth elseSeen (Token.scatterAll tokens) =
      recast Sections.scatter (splitSections opener depth elseSeen tokens) := by
  induction tokens generalizing depth elseSeen with
  | nil => rfl
  | cons token tokens ih =>
      have passed (depth : Nat) (elseSeen : Bool) :
          recast Sections.scatter ((splitSections opener depth elseSeen tokens).map (.push token)) =
            (splitSections default depth elseSeen (Token.scatterAll tokens)).map
              (.pushAll token.scatter) := by
        rw [recast_push, ih]
      have divided (elseSeen : Bool) :
          recast Sections.scatter ((splitSections opener 0 elseSeen tokens).map (.divide token)) =
            (splitSections default 0 elseSeen (Token.scatterAll tokens)).map
              (.divide (ofContent token.content)) := by
        rw [recast_divide, ih]
      rw [Token.scatterAll_cons]
      by_cases plain : token.kind = .plain
      · have kept := keepsSections_plain (Token.kind_scatter plain)
        rw [kept _ _ _ _ (Nat.zero_le _), ← passed]
        simp only [splitSections, plain]
      · have tag := Token.scatter_tag plain
        have kind : (ofContent token.content).kind = token.kind := rfl
        rw [tag] at passed ⊢
        simp only [List.singleton_append, splitSections, kind]
        split
        · exact (passed _ _).symm
        · rfl
        · exact (passed _ _).symm
        · split
          · rfl
          · exact (divided _).symm
        · split
          · rfl
          · exact (divided _).symm
        · exact (passed _ _).symm

theorem ofTokens_letters (text : List Char) (rest : List Token) :
    ofTokens (text.map (fun letter => ⟨.plain, some (String.singleton letter), default⟩) ++ rest) =
      (ofTokens rest).map
        (text.map (fun letter => Node.plain (String.singleton letter)) ++ ·) := by
  induction text with
  | nil =>
      rw [List.map_nil, List.nil_append]
      cases ofTokens rest <;> rfl
  | cons letter text ih =>
      rw [List.map_cons, List.cons_append, ofTokens_plain _ rfl, ih]
      cases ofTokens rest <;> rfl

mutual

theorem ofTokens_scatter (tokens : List Token) :
    ofTokens (Token.scatterAll tokens) = recast scatterAll (ofTokens tokens) := by
  cases tokens with
  | nil =>
      rw [Token.scatterAll_nil, ofTokens_nil]
      rfl
  | cons token rest =>
      have marked : (ofContent token.content).kind = token.kind := rfl
      rw [Token.scatterAll_cons]
      cases kind : token.kind with
      | plain =>
          rw [Token.scatter_plain kind, ofTokens_letters, ofTokens_scatter rest,
            ofTokens_plain rest kind]
          cases ofTokens rest <;> rfl
      | expression =>
          rw [kind] at marked
          rw [Token.scatter_tag (by simp [kind]), List.singleton_append,
            ofTokens_output _ marked, ofTokens_output _ kind, ofTokens_scatter rest]
          cases ofTokens rest <;> rfl
      | forLoop =>
          rw [kind] at marked
          rw [Token.scatter_tag (by simp [kind]), List.singleton_append,
            ofTokens_forLoop _ marked, ofTokens_forLoop _ kind, splitLoop?_scatter]
          cases found : splitLoop? 0 rest with
          | none => rfl
          | some split =>
              obtain ⟨inside, after⟩ := split
              have shorter := length_splitLoop? found
              have text : (ofContent token.content).text = token.text := rfl
              simp only [Option.map_some, Prod.map_apply, text]
              cases splitFor? token.text with
              | none => rfl
              | some header =>
                  simp only [ofTokens_scatter inside, ofTokens_scatter after]
                  cases ofTokens inside with
                  | error error => rfl
                  | ok body => cases ofTokens after <;> rfl
      | ifBranch =>
          rw [kind] at marked
          rw [Token.scatter_tag (by simp [kind]), List.singleton_append,
            ofTokens_ifBranch _ marked, ofTokens_ifBranch _ kind]
          have location : (ofContent token.content).location = default := rfl
          rw [location, splitSections_scatter token.location]
          cases found : splitSections token.location 0 false rest with
          | error error => rfl
          | ok sections =>
              have shorter := length_splitSections found
              simp only [recast, Outcome.ok_bind, Sections.scatter, ofMarked_scatter sections.marked,
                ofTokens_scatter sections.first, ofTokens_scatter sections.after]
              cases ofTokens sections.first with
              | error error => rfl
              | ok body =>
                  cases ofMarked sections.marked with
                  | error error => rfl
                  | ok alternatives => cases ofTokens sections.after <;> rfl
      | _ =>
          rw [Token.scatter_tag (by simp [kind]), List.singleton_append,
            ofTokens_stray _ (by simp [marked, kind]), ofTokens_stray _ (by simp [kind])]
          rfl
termination_by tokens.length
decreasing_by all_goals simp only [List.length_cons]; omega

theorem ofMarked_scatter (marked : List (Token × List Token)) :
    ofMarked (marked.map fun (mark, inside) =>
        (ofContent mark.content, Token.scatterAll inside)) =
      recast Alternatives.scatter (ofMarked marked) := by
  cases marked with
  | nil =>
      rw [List.map_nil, ofMarked_nil]
      rfl
  | cons section_ marked =>
      obtain ⟨mark, inside⟩ := section_
      have kind : (ofContent mark.content).kind = mark.kind := rfl
      rw [List.map_cons, ofMarked, ofMarked]
      simp only [kind, ofTokens_scatter inside, ofMarked_scatter marked]
      cases ofTokens inside with
      | error error => rfl
      | ok body =>
          simp only [recast, Outcome.ok_bind]
          split
          · cases ofMarked marked <;> rfl
          · rfl
termination_by (Sections.markedTokens marked).length
decreasing_by
  all_goals simp only [Sections.markedTokens, List.length_cons, List.length_append]; omega

end

/-- Tokens that are the same in letters make trees that are the same in letters, or are at fault in
the same way. -/
theorem recast_parse_eq {tokens others : List Token}
    (same : Token.spread (tokens.map Token.content) = Token.spread (others.map Token.content)) :
    recast scatterAll (parse tokens) = recast scatterAll (parse others) := by
  rw [parse_eq_ofTokens, parse_eq_ofTokens, ← ofTokens_scatter, ← ofTokens_scatter,
    Token.scatterAll_eq, Token.scatterAll_eq, same]

end Node

end Stencil
