import Stencil.Proofs.Blocks.Ranges
import Stencil.Proofs.Token.Scanning

/-!
The tokens that errors of the block parser point at. An error is located at a token of the template,
which is a control word of the sort that the error is about.
-/

namespace Stencil

open Outcome

def BlockFault.Concerns : BlockFault → TokenKind × Option String → Prop
  | .unexpected kind, said =>
      said.1 = kind ∧ kind ∈ [TokenKind.endFor, .elseIf, .elseBranch, .endIf]
  | .unclosedFor, said => said.1 = .forLoop
  | .invalidFor, said => said.1 = .forLoop ∧ Node.splitFor? (said.2.getD "") = none
  | .unclosedIf, said => said.1 = .ifBranch
  | .elseIfAfterElse, said => said.1 = .elseIf
  | .secondElse, said => said.1 = .elseBranch

theorem BlockFault.Concerns.control {fault : BlockFault} {kind : TokenKind} {value : Option String}
    (concerns : fault.Concerns (kind, value)) : kind ≠ .plain ∧ kind ≠ .expression := by
  cases fault with
  | unexpected other =>
      obtain ⟨rfl, stray⟩ := concerns
      constructor <;> rintro rfl <;> simp at stray
  | invalidFor =>
      obtain rfl : kind = .forLoop := concerns.1
      simp
  | unclosedFor | unclosedIf | elseIfAfterElse | secondElse =>
      subst concerns
      simp

def BlockError.Blames (error : BlockError) (token : Token) : Prop :=
  error.location = token.location ∧ error.fault.Concerns token.content

def BlockError.BlamesSome (error : BlockError) (tokens : List Token) : Prop :=
  ∃ token ∈ tokens, error.Blames token

theorem BlockError.BlamesSome.mono {error : BlockError} {part tokens : List Token}
    (found : error.BlamesSome part) (subset : part ⊆ tokens) : error.BlamesSome tokens := by
  obtain ⟨token, member, blames⟩ := found
  exact ⟨token, subset member, blames⟩

namespace Node

theorem blamesSome_of_splitSections {opener : Location} {depth : Nat} {elseSeen : Bool}
    {tokens : List Token} {error : BlockError}
    (failed : splitSections opener depth elseSeen tokens = .error error) :
    error = ⟨.unclosedIf, opener⟩ ∨ error.BlamesSome tokens := by
  have later {first : Token} {rest : List Token}
      (found : error = ⟨.unclosedIf, opener⟩ ∨ error.BlamesSome rest) :
      error = ⟨.unclosedIf, opener⟩ ∨ error.BlamesSome (first :: rest) :=
    found.imp_right fun blames => blames.mono (List.subset_cons_self ..)
  fun_induction splitSections opener depth elseSeen tokens with
  | case1 => exact .inl (Except.error.inj failed).symm
  | case2 elseSeen token rest depth kind ih => exact later (ih (map_eq_error_iff.mp failed))
  | case3 => simp at failed
  | case4 elseSeen token rest depth kind ih => exact later (ih (map_eq_error_iff.mp failed))
  | case5 token rest kind =>
      obtain rfl := Except.error.inj failed
      exact .inr ⟨token, List.mem_cons_self .., rfl, kind⟩
  | case6 elseSeen token rest kind unseen ih => exact later (ih (map_eq_error_iff.mp failed))
  | case7 token rest kind =>
      obtain rfl := Except.error.inj failed
      exact .inr ⟨token, List.mem_cons_self .., rfl, kind⟩
  | case8 elseSeen token rest kind unseen ih => exact later (ih (map_eq_error_iff.mp failed))
  | case9 elseSeen token rest depth notIf notEnd notNested notElseIf notElse ih =>
      exact later (ih (map_eq_error_iff.mp failed))

mutual

theorem blamesSome_of_ofTokens (tokens : List Token) (error : BlockError)
    (failed : ofTokens tokens = .error error) : error.BlamesSome tokens := by
  match tokens with
  | [] => simp at failed
  | token :: rest =>
      have here (blames : error.Blames token) : error.BlamesSome (token :: rest) :=
        ⟨token, List.mem_cons_self .., blames⟩
      have within {part : List Token} (subset : part ⊆ rest) (found : error.BlamesSome part) :
          error.BlamesSome (token :: rest) :=
        found.mono (List.Subset.trans subset (List.subset_cons_self ..))
      cases kind : token.kind with
      | plain =>
          rw [ofTokens_plain rest kind, bind_pure_eq_error_iff] at failed
          exact within (List.Subset.refl _) (blamesSome_of_ofTokens rest error failed)
      | expression =>
          rw [ofTokens_output rest kind, bind_pure_eq_error_iff] at failed
          exact within (List.Subset.refl _) (blamesSome_of_ofTokens rest error failed)
      | forLoop =>
          rw [ofTokens_forLoop rest kind] at failed
          split at failed
          · obtain rfl := Except.error.inj failed
            exact here ⟨rfl, kind⟩
          · rename_i inside after loop
            obtain ⟨closer, _, whole⟩ := eq_append_of_splitLoop? loop
            have shorter := length_splitLoop? loop
            have inRest : inside ⊆ rest := by simp [whole]
            have afterRest : after ⊆ rest := by simp [whole]
            split at failed
            · rename_i invalid
              obtain rfl := Except.error.inj failed
              exact here ⟨rfl, kind, invalid⟩
            · rcases bind_eq_error_iff.mp failed with failed | ⟨body, _, failed⟩
              · exact within inRest (blamesSome_of_ofTokens inside error failed)
              · rw [bind_pure_eq_error_iff] at failed
                exact within afterRest (blamesSome_of_ofTokens after error failed)
      | ifBranch =>
          rw [ofTokens_ifBranch rest kind] at failed
          rcases bind_eq_error_iff.mp failed with failed | ⟨sections, split, failed⟩
          · rcases blamesSome_of_splitSections failed with rfl | found
            · exact here ⟨rfl, kind⟩
            · exact within (List.Subset.refl _) found
          · obtain ⟨closer, _, whole⟩ := (split_of_splitSections split).whole
            have shorter := length_splitSections split
            have firstRest : sections.first ⊆ rest := by simp [whole]
            have markedRest : Sections.markedTokens sections.marked ⊆ rest := by simp [whole]
            have afterRest : sections.after ⊆ rest := by
              rw [whole, ← List.append_assoc]
              exact List.subset_append_of_subset_right _ (List.subset_cons_self ..)
            rcases bind_eq_error_iff.mp failed with failed | ⟨body, _, failed⟩
            · exact within firstRest (blamesSome_of_ofTokens sections.first error failed)
            · rcases bind_eq_error_iff.mp failed with failed | ⟨alternatives, _, failed⟩
              · exact within markedRest (blamesSome_of_ofMarked sections.marked error failed)
              · rw [bind_pure_eq_error_iff] at failed
                exact within afterRest (blamesSome_of_ofTokens sections.after error failed)
      | endFor | elseIf | elseBranch | endIf =>
          have stray : token.kind ∈ [TokenKind.endFor, .elseIf, .elseBranch, .endIf] := by simp [kind]
          rw [ofTokens_stray rest stray] at failed
          obtain rfl := Except.error.inj failed
          exact here ⟨rfl, rfl, stray⟩
termination_by tokens.length
decreasing_by all_goals simp only [List.length_cons]; omega

theorem blamesSome_of_ofMarked (marked : List (Token × List Token)) (error : BlockError)
    (failed : ofMarked marked = .error error) :
    error.BlamesSome (Sections.markedTokens marked) := by
  match marked with
  | [] => simp at failed
  | (mark, inside) :: others =>
      rw [ofMarked] at failed
      rcases bind_eq_error_iff.mp failed with failed | ⟨body, _, failed⟩
      · have found := blamesSome_of_ofTokens inside error failed
        exact found.mono (by simp [Sections.markedTokens])
      · split at failed
        · rw [bind_pure_eq_error_iff] at failed
          have found := blamesSome_of_ofMarked others error failed
          exact found.mono (by simp [Sections.markedTokens])
        · simp [pure, Except.pure] at failed
termination_by (Sections.markedTokens marked).length
decreasing_by
  all_goals simp only [Sections.markedTokens, List.length_cons, List.length_append]; omega

end

/-- Every error of the block parser is that of one of the tokens. -/
theorem blamesSome_of_parse {tokens : List Token} {error : BlockError}
    (failed : parse tokens = .error error) : error.BlamesSome tokens := by
  rw [parse_eq_ofTokens] at failed
  exact blamesSome_of_ofTokens tokens error failed

end Node

end Stencil
