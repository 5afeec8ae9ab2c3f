import Stencil.Proofs.Blocks.Derivation

/-!
Parsing and derivations. The parser accepts the tokens of a derivation with the nodes of that
derivation, and every list of tokens it accepts has a derivation, of which there is only one. Each
part of a node keeps what its own tag says.
-/

namespace Stencil

open Node Outcome

theorem splitSections_last (opener : Location) (elseSeen : Bool) (body : List Item)
    {closer : Token} (closerKind : closer.kind = .endIf) (rest : List Token) :
    splitSections opener 0 elseSeen (Item.allTokens body ++ closer :: rest) =
      .ok ⟨Item.allTokens body, [], rest⟩ := by
  rw [Item.keepsSections_all body _ _ _ _ (Nat.le_refl 0)]
  simp [splitSections, closerKind, Sections.pushAll]

theorem Branches.splitSections (opener : Location) {closer : Token}
    (closerKind : closer.kind = .endIf) (rest : List Token) :
    (body : List Item) → (branches : Branches) →
      splitSections opener 0 false
          (Item.allTokens body ++ (branches.tokens ++ closer :: rest)) =
        .ok ⟨Item.allTokens body, branches.marked, rest⟩
  | body, .none => splitSections_last opener false body closerKind rest
  | body, .elseBranch mark inside => by
      have last := splitSections_last opener true inside closerKind rest
      rw [Item.keepsSections_all body _ _ _ _ (Nat.le_refl 0), tokens, List.cons_append]
      simp [Node.splitSections, mark.property, last, Sections.divide, Sections.pushAll, marked]
  | body, .elseIf mark inside others => by
      have ih := Branches.splitSections opener closerKind rest inside others
      rw [Item.keepsSections_all body _ _ _ _ (Nat.le_refl 0), tokens, List.cons_append,
        List.append_assoc]
      simp [Node.splitSections, mark.property, ih, Sections.divide, Sections.pushAll, marked]

mutual

theorem Item.ofTokens_append (rest : List Token) :
    (item : Item) → ofTokens (item.tokens ++ rest) = do
      let others ← ofTokens rest
      return item.node :: others
  | .plain token => ofTokens_plain rest token.property
  | .output token => ofTokens_output rest token.property
  | .loop opener body closer => by
      have inside := (Item.keepsLoops_all body).splitLoop? closer.property rest
      rw [Item.tokens, List.cons_append, List.append_assoc, List.singleton_append,
        ofTokens_forLoop _ opener.kind_eq]
      simp only [inside, opener.splitFor?_text, Item.ofTokens_allTokens body, ok_bind, Item.node]
  | .branch opener body others closer => by
      have sections := Branches.splitSections opener.val.location closer.property rest body others
      rw [Item.tokens, List.cons_append, List.append_assoc, List.append_assoc, List.singleton_append,
        ofTokens_ifBranch _ opener.property]
      simp only [sections, Item.ofTokens_allTokens body, others.ofMarked_marked, ok_bind, Item.node]

theorem Item.ofTokens_allTokens :
    (items : List Item) → ofTokens (Item.allTokens items) = .ok (Item.nodes items)
  | [] => ofTokens_nil
  | item :: items => by
      rw [Item.allTokens, item.ofTokens_append, Item.ofTokens_allTokens items]
      rfl

theorem Branches.ofMarked_marked :
    (branches : Branches) → ofMarked branches.marked = .ok branches.alternatives
  | .none => ofMarked_nil
  | .elseBranch mark body => by
      rw [Branches.marked, ofMarked_elseBranch _ _ mark.property, Item.ofTokens_allTokens body]
      rfl
  | .elseIf mark body others => by
      rw [Branches.marked, ofMarked_elseIf _ _ mark.property, Item.ofTokens_allTokens body, ok_bind,
        others.ofMarked_marked]
      rfl

end

mutual

theorem exists_items_of_ofTokens (tokens : List Token) (nodes : List Node)
    (parsed : ofTokens tokens = .ok nodes) :
    ∃ items, Item.allTokens items = tokens ∧ Item.nodes items = nodes := by
  match tokens with
  | [] =>
      rw [ofTokens_nil, Except.ok.injEq] at parsed
      exact ⟨[], rfl, parsed⟩
  | token :: rest =>
      cases kind : token.kind with
      | plain =>
          rw [ofTokens_plain rest kind] at parsed
          obtain ⟨others, remaining, result⟩ := bind_eq_ok_iff.mp parsed
          obtain ⟨items, rfl, rfl⟩ := exists_items_of_ofTokens rest others remaining
          exact ⟨.plain ⟨token, kind⟩ :: items, rfl, Except.ok.inj result⟩
      | expression =>
          rw [ofTokens_output rest kind] at parsed
          obtain ⟨others, remaining, result⟩ := bind_eq_ok_iff.mp parsed
          obtain ⟨items, rfl, rfl⟩ := exists_items_of_ofTokens rest others remaining
          exact ⟨.output ⟨token, kind⟩ :: items, rfl, Except.ok.inj result⟩
      | forLoop =>
          rw [ofTokens_forLoop rest kind] at parsed
          split at parsed
          · simp at parsed
          · rename_i inside after loop
            split at parsed
            · simp at parsed
            · rename_i variableName iterable split
              obtain ⟨closer, closerKind, whole⟩ := eq_append_of_splitLoop? loop
              have shorter := length_splitLoop? loop
              obtain ⟨bodyNodes, bodyParsed, parsed⟩ := bind_eq_ok_iff.mp parsed
              obtain ⟨others, remaining, result⟩ := bind_eq_ok_iff.mp parsed
              obtain ⟨body, rfl, rfl⟩ := exists_items_of_ofTokens inside bodyNodes bodyParsed
              obtain ⟨items, rfl, rfl⟩ := exists_items_of_ofTokens after others remaining
              let opener : LoopTag :=
                ⟨token, variableName, iterable, kind, splitFor?_eq_some_iff.mp split⟩
              refine ⟨.loop opener body ⟨closer, closerKind⟩ :: items, ?_, Except.ok.inj result⟩
              simp [Item.allTokens, Item.tokens, opener, whole]
      | ifBranch =>
          rw [ofTokens_ifBranch rest kind] at parsed
          obtain ⟨sections, split, parsed⟩ := bind_eq_ok_iff.mp parsed
          obtain ⟨closer, closerKind, whole⟩ := (split_of_splitSections split).whole
          have shorter := length_splitSections split
          obtain ⟨bodyNodes, bodyParsed, parsed⟩ := bind_eq_ok_iff.mp parsed
          obtain ⟨alternatives, alternativesParsed, parsed⟩ := bind_eq_ok_iff.mp parsed
          obtain ⟨others, remaining, result⟩ := bind_eq_ok_iff.mp parsed
          obtain ⟨body, bodySame, rfl⟩ :=
            exists_items_of_ofTokens sections.first bodyNodes bodyParsed
          obtain ⟨branches, marked, rfl⟩ := exists_branches_of_ofMarked sections.marked
            alternatives (split_of_splitSections split).ordered alternativesParsed
          obtain ⟨items, itemsSame, rfl⟩ :=
            exists_items_of_ofTokens sections.after others remaining
          refine ⟨.branch ⟨token, kind⟩ body branches ⟨closer, closerKind⟩ :: items, ?_,
            Except.ok.inj result⟩
          rw [whole, ← marked, branches.markedTokens_marked, ← bodySame, ← itemsSame]
          simp [Item.allTokens, Item.tokens]
      | endFor => simp [ofTokens_stray rest (show token.kind ∈ _ by simp [kind])] at parsed
      | elseIf => simp [ofTokens_stray rest (show token.kind ∈ _ by simp [kind])] at parsed
      | elseBranch => simp [ofTokens_stray rest (show token.kind ∈ _ by simp [kind])] at parsed
      | endIf => simp [ofTokens_stray rest (show token.kind ∈ _ by simp [kind])] at parsed
termination_by tokens.length
decreasing_by all_goals simp only [List.length_cons]; omega

theorem exists_branches_of_ofMarked (marked : List (Token × List Token))
    (alternatives : Alternatives) (ordered : Sections.Ordered marked)
    (parsed : ofMarked marked = .ok alternatives) :
    ∃ branches : Branches, branches.marked = marked ∧ branches.alternatives = alternatives := by
  match marked with
  | [] =>
      rw [ofMarked_nil, Except.ok.injEq] at parsed
      exact ⟨.none, rfl, parsed⟩
  | (mark, inside) :: others =>
      rcases ordered with ⟨kind, ordered⟩ | ⟨kind, rfl⟩
      · rw [ofMarked_elseIf inside others kind] at parsed
        obtain ⟨bodyNodes, bodyParsed, parsed⟩ := bind_eq_ok_iff.mp parsed
        obtain ⟨remaining, othersParsed, result⟩ := bind_eq_ok_iff.mp parsed
        obtain ⟨body, rfl, rfl⟩ := exists_items_of_ofTokens inside bodyNodes bodyParsed
        obtain ⟨branches, rfl, rfl⟩ :=
          exists_branches_of_ofMarked others remaining ordered othersParsed
        exact ⟨.elseIf ⟨mark, kind⟩ body branches, rfl, Except.ok.inj result⟩
      · rw [ofMarked_elseBranch inside [] kind] at parsed
        obtain ⟨bodyNodes, bodyParsed, result⟩ := bind_eq_ok_iff.mp parsed
        obtain ⟨body, rfl, rfl⟩ := exists_items_of_ofTokens inside bodyNodes bodyParsed
        exact ⟨.elseBranch ⟨mark, kind⟩ body, rfl, Except.ok.inj result⟩
termination_by (Sections.markedTokens marked).length
decreasing_by
  all_goals simp only [Sections.markedTokens, List.length_cons, List.length_append]; omega

end

theorem parse_eq_ok_iff_items {tokens : List Token} {nodes : List Node} :
    parse tokens = .ok nodes ↔
      ∃ items, Item.allTokens items = tokens ∧ Item.nodes items = nodes := by
  rw [parse_eq_ofTokens]
  constructor
  · exact exists_items_of_ofTokens tokens nodes
  · rintro ⟨items, rfl, rfl⟩
    exact Item.ofTokens_allTokens items

def Item.kind : Item → TokenKind
  | .plain _ => .plain
  | .output _ => .expression
  | .loop _ _ _ => .forLoop
  | .branch _ _ _ _ => .ifBranch

theorem Item.tokens_eq_cons (item : Item) :
    ∃ first others, item.tokens = first :: others ∧ first.kind = item.kind := by
  cases item with
  | plain token => exact ⟨token.val, [], rfl, token.property⟩
  | output token => exact ⟨token.val, [], rfl, token.property⟩
  | loop opener body closer => exact ⟨opener.token, _, rfl, opener.kind_eq⟩
  | branch opener body others closer => exact ⟨opener.val, _, rfl, opener.property⟩

theorem Item.kind_eq_of_append {item other : Item} {rest otherRest : List Token}
    (same : item.tokens ++ rest = other.tokens ++ otherRest) : item.kind = other.kind := by
  obtain ⟨first, tail, whole, kind⟩ := item.tokens_eq_cons
  obtain ⟨otherFirst, otherTail, otherWhole, otherKind⟩ := other.tokens_eq_cons
  rw [whole, otherWhole, List.cons_append, List.cons_append, List.cons.injEq] at same
  rw [← kind, ← otherKind, same.1]

mutual

/-- What the searches for the ends of blocks find is the same for the same tokens, so that nothing
is left to choose. -/
theorem Item.eq_of_append : (item other : Item) → (rest otherRest : List Token) →
    item.tokens ++ rest = other.tokens ++ otherRest → item = other ∧ rest = otherRest
  | item, other, rest, otherRest, same => by
      have kindSame := Item.kind_eq_of_append same
      cases item with
      | plain token =>
          cases other with
          | plain otherToken =>
              simp only [Item.tokens, List.singleton_append, List.cons.injEq] at same
              exact ⟨congrArg _ (Subtype.ext same.1), same.2⟩
          | _ => simp [Item.kind] at kindSame
      | output token =>
          cases other with
          | output otherToken =>
              simp only [Item.tokens, List.singleton_append, List.cons.injEq] at same
              exact ⟨congrArg _ (Subtype.ext same.1), same.2⟩
          | _ => simp [Item.kind] at kindSame
      | loop opener body closer =>
          cases other with
          | loop otherOpener otherBody otherCloser =>
              -- The search for the end of the loop sees the tokens only, so it finds both bodies.
              simp only [Item.tokens, List.cons_append, List.append_assoc, List.nil_append,
                List.cons.injEq] at same
              have split := (Item.keepsLoops_all body).splitLoop? closer.property rest
              rw [same.2, (Item.keepsLoops_all otherBody).splitLoop? otherCloser.property] at split
              simp only [Option.some.injEq, Prod.mk.injEq] at split
              obtain rfl := LoopTag.eq_of_token same.1
              obtain rfl := Item.eq_of_allTokens body otherBody split.1.symm
              have closers := List.append_cancel_left same.2
              simp only [List.cons.injEq] at closers
              obtain rfl := Subtype.ext closers.1
              exact ⟨rfl, closers.2⟩
          | _ => simp [Item.kind] at kindSame
      | branch opener body branches closer =>
          cases other with
          | branch otherOpener otherBody otherBranches otherCloser =>
              simp only [Item.tokens, List.cons_append, List.append_assoc, List.nil_append,
                List.cons.injEq] at same
              have split := Branches.splitSections default closer.property rest body branches
              rw [same.2, Branches.splitSections default otherCloser.property] at split
              simp only [Except.ok.injEq, Sections.mk.injEq] at split
              obtain rfl := Subtype.ext same.1
              obtain rfl := Item.eq_of_allTokens body otherBody split.1.symm
              obtain rfl := Branches.eq_of_marked branches otherBranches split.2.1.symm
              have closers := List.append_cancel_left (List.append_cancel_left same.2)
              simp only [List.cons.injEq] at closers
              obtain rfl := Subtype.ext closers.1
              exact ⟨rfl, closers.2⟩
          | _ => simp [Item.kind] at kindSame

theorem Item.eq_of_allTokens : (items others : List Item) →
    Item.allTokens items = Item.allTokens others → items = others
  | [], [], _ => rfl
  | [], other :: others, same => by
      obtain ⟨first, tail, whole, _⟩ := other.tokens_eq_cons
      simp [Item.allTokens, whole] at same
  | item :: items, [], same => by
      obtain ⟨first, tail, whole, _⟩ := item.tokens_eq_cons
      simp [Item.allTokens, whole] at same
  | item :: items, other :: others, same => by
      obtain ⟨rfl, rest⟩ := Item.eq_of_append item other _ _ same
      rw [Item.eq_of_allTokens items others rest]

theorem Branches.eq_of_marked : (branches others : Branches) →
    branches.marked = others.marked → branches = others
  | .none, .none, _ => rfl
  | .elseBranch mark body, .elseBranch otherMark otherBody, same => by
      simp only [Branches.marked, List.cons.injEq, Prod.mk.injEq, and_true] at same
      rw [Subtype.ext same.1, Item.eq_of_allTokens body otherBody same.2]
  | .elseIf mark body others, .elseIf otherMark otherBody otherOthers, same => by
      simp only [Branches.marked, List.cons.injEq, Prod.mk.injEq] at same
      rw [Subtype.ext same.1.1, Item.eq_of_allTokens body otherBody same.1.2,
        Branches.eq_of_marked others otherOthers same.2]
  | .elseBranch mark _, .elseIf otherMark _ _, same => by
      simp only [Branches.marked, List.cons.injEq, Prod.mk.injEq] at same
      have kind := mark.property
      simp [same.1.1, otherMark.property] at kind
  | .elseIf mark _ _, .elseBranch otherMark _, same => by
      simp only [Branches.marked, List.cons.injEq, Prod.mk.injEq] at same
      have kind := mark.property
      simp [same.1.1, otherMark.property] at kind
  | .none, .elseBranch _ _, same => by simp [Branches.marked] at same
  | .none, .elseIf _ _ _, same => by simp [Branches.marked] at same
  | .elseBranch _ _, .none, same => by simp [Branches.marked] at same
  | .elseIf _ _ _, .none, same => by simp [Branches.marked] at same

end

end Stencil
