import Stencil.Proofs.Blocks.Dividers

/-!
What a call of the block parser depends on. It looks at tokens of its own range only, and it leaves
parts of this range to other calls, which are smaller; so the nodes of a range are those of the tokens
in it, wherever the range lies and whatever stands around it.
-/

namespace Stencil.Node

open Outcome

def branchesFrom (access : Access) (dividers : Dividers) : List Nat → Except Halt Alternatives
  | [] =>
      match dividers.elseMark with
      | none => .ok .none
      | some mark => do
          let inside ← access.nodes (mark + 1) dividers.close
          return .elseBranch inside
  | mark :: elseIfs => do
      let token ← access.token mark
      let inside ← access.nodes (mark + 1) (dividers.boundaryAfter mark)
      let others ← branchesFrom access dividers elseIfs
      return .elseIf (.ofSource token.text) inside others token.location

def branchNode (access : Access) (opener : Nat) (dividers : Dividers) : Except Halt Node := do
  let token ← access.token opener
  let body ← access.nodes (opener + 1) (dividers.boundaryAfter opener)
  let alternatives ← branchesFrom access dividers dividers.elseIfs
  return .ifBranch (.ofSource token.text) body alternatives token.location

def nodesFrom (access : Access) (stop index : Nat) : Except Halt (List Node) :=
  if index < stop then do
    let token ← access.token index
    match token.kind with
    | .plain => do
        let others ← nodesFrom access stop (index + 1)
        return .plain token.text :: others
    | .expression => do
        let others ← nodesFrom access stop (index + 1)
        return .output (.ofSource token.text) token.location :: others
    | .forLoop =>
        match _found : seekEndFor access index stop 0 (index + 1) with
        | .error halt => .error halt
        | .ok close =>
            match splitFor? token.text with
            | none => .error (.fault ⟨.invalidFor, token.location⟩)
            | some (variableName, iterable) => do
                let body ← access.nodes (index + 1) close
                let others ← nodesFrom access stop (close + 1)
                return .forLoop variableName (.ofSource iterable) body token.location :: others
    | .ifBranch =>
        match _found : seekDividers access index stop 0 false (index + 1) with
        | .error halt => .error halt
        | .ok dividers => do
            let node ← branchNode access index dividers
            let others ← nodesFrom access stop (dividers.close + 1)
            return node :: others
    | kind => .error (.fault ⟨.unexpected kind, token.location⟩)
  else .ok []
termination_by stop - index
decreasing_by
  · omega
  · omega
  · have := le_of_seekEndFor _found; omega
  · have := le_of_seekDividers _found; omega

theorem nodesFrom_forLoop {access : Access} {stop index : Nat} {token : Token}
    (below : index < stop) (given : access.token index = .ok token) (kind : token.kind = .forLoop) :
    nodesFrom access stop index = (do
      let close ← seekEndFor access index stop 0 (index + 1)
      match splitFor? token.text with
      | none => .error (.fault ⟨.invalidFor, token.location⟩)
      | some (variableName, iterable) => do
          let body ← access.nodes (index + 1) close
          let others ← nodesFrom access stop (close + 1)
          return .forLoop variableName (.ofSource iterable) body token.location :: others) := by
  rw [nodesFrom, if_pos below, given, ok_bind]
  simp only [kind]
  cases seekEndFor access index stop 0 (index + 1) <;> rfl

theorem nodesFrom_ifBranch {access : Access} {stop index : Nat} {token : Token}
    (below : index < stop) (given : access.token index = .ok token) (kind : token.kind = .ifBranch) :
    nodesFrom access stop index = (do
      let dividers ← seekDividers access index stop 0 false (index + 1)
      let node ← branchNode access index dividers
      let others ← nodesFrom access stop (dividers.close + 1)
      return node :: others) := by
  rw [nodesFrom, if_pos below, given, ok_bind]
  simp only [kind]
  cases seekDividers access index stop 0 false (index + 1) <;> rfl

namespace Access

/-- What a call for a range of the tokens is given: the tokens in the range, and the nodes of those
smaller ranges that lie in it. -/
def within (tokens : Array Token) (start stop : Nat) : Access where
  token index :=
    if start ≤ index ∧ index < stop then
      match tokens[index]? with
      | none => .error .refused
      | some token => .ok token
    else .error .refused
  nodes low high :=
    if start ≤ low ∧ low ≤ high ∧ high ≤ stop ∧ high - low < stop - start then
      (parseRange tokens low high).mapError .fault
    else .error .refused

def only (stretches : List Stretch) (access : Access) : Access where
  token index :=
    if stretches.any (·.tag = index) then access.token index else .error .refused
  nodes low high :=
    if stretches.any (fun stretch => stretch.start = low ∧ stretch.stop = high) then
      access.nodes low high
    else .error .refused

end Access

theorem parseAlternatives_cons {tokens : Array Token} {close low mark : Nat} {marks : List Nat}
    {token : Token} (ascending : Ascending close low (mark :: marks))
    (found : tokens[mark]? = some token) :
    parseAlternatives tokens close low (mark :: marks) ascending = (do
      let body ← parseRange tokens (mark + 1) (marks.headD close)
      match token.kind with
      | .elseIf =>
          let others ← parseAlternatives tokens close (mark + 1) marks ascending.2.2
          return .elseIf (.ofSource token.text) body others token.location
      | _ => return .elseBranch body) := by
  rw [parseAlternatives]
  split
  · rename_i missing
    rw [found] at missing
    cases missing
  · rename_i other same
    rw [found] at same
    obtain rfl := Option.some.inj same
    rfl

section Call

variable {access : Access} {tokens : Array Token} {start stop : Nat}
  (gives : access.Gives tokens start stop)
  (leaves : ∀ low high, start < low → low ≤ high → high < stop →
    access.nodes low high = (parseRange tokens low high).mapError .fault)

include gives leaves

section Branch

variable {dividers : Dividers} {opener : Nat} (above : start ≤ opener)
  (ascending : Ascending dividers.close (opener + 1) dividers.marks) (below : dividers.close < stop)
  (others : ∀ mark ∈ dividers.elseIfs, ∃ token, tokens[mark]? = some token ∧ token.kind = .elseIf)
  (last : ∀ mark ∈ dividers.elseMark,
    ∃ token, tokens[mark]? = some token ∧ token.kind = .elseBranch)

include above ascending below others last

theorem branchesFrom_eq {front back marks : List Nat} {low : Nat}
    (split : dividers.elseIfs = front ++ back) (rest : marks = back ++ dividers.elseMark.toList)
    (later : Ascending dividers.close low marks) :
    branchesFrom access dividers back =
      (parseAlternatives tokens dividers.close low marks later).mapError .fault := by
  induction back generalizing front low marks with
  | nil =>
      rw [branchesFrom]
      cases elseMark : dividers.elseMark with
      | none =>
          obtain rfl : marks = [] := by simpa [elseMark] using rest
          rw [parseAlternatives]
          rfl
      | some mark =>
          obtain rfl : marks = [mark] := by simpa [elseMark] using rest
          obtain ⟨token, found, kind⟩ := last mark elseMark
          have member : mark ∈ dividers.marks := by simp [Dividers.marks, elseMark]
          have bounds := ascending.bounds member
          dsimp only
          rw [parseAlternatives_cons later found, List.headD_nil,
            leaves _ _ (by omega) (by omega) below]
          cases parseRange tokens (mark + 1) dividers.close with
          | error error => rfl
          | ok inside =>
              simp only [kind]
              rfl
  | cons mark back ih =>
      obtain rfl : marks = mark :: (back ++ dividers.elseMark.toList) := rest
      have whole : dividers.marks = front ++ mark :: (back ++ dividers.elseMark.toList) := by
        rw [Dividers.marks, split, List.append_assoc, List.cons_append]
      obtain ⟨token, found, kind⟩ := others mark (by simp [split])
      have member : mark ∈ dividers.marks := by simp [whole]
      have bounds := ascending.bounds member
      have next := Dividers.boundaryAfter_mark ascending whole
      have nextBounds := later.2.2.headD_bounds (Nat.succ_le_of_lt bounds.2)
      have shifted : dividers.elseIfs = (front ++ [mark]) ++ back := by simp [split]
      have inner := ih shifted rfl later.2.2
      rw [branchesFrom, gives.token_eq (by omega) (by omega) found, ok_bind, next,
        leaves _ _ (by omega) nextBounds.1 (by omega), inner, parseAlternatives_cons later found]
      cases parseRange tokens (mark + 1) _ with
      | error error => rfl
      | ok inside =>
          simp only [kind, ok_bind]
          cases parseAlternatives tokens dividers.close (mark + 1) _ later.2.2 <;> rfl

variable (dividers) in
theorem branchNode_eq {token : Token} (opened : tokens[opener]? = some token)
    (closed : opener + 1 ≤ dividers.close) :
    branchNode access opener dividers = Except.mapError .fault (do
      let body ← parseRange tokens (opener + 1) (dividers.marks.headD dividers.close)
      let alternatives ←
        parseAlternatives tokens dividers.close (opener + 1) dividers.marks ascending
      return Node.ifBranch (.ofSource token.text) body alternatives token.location) := by
  have bounds := ascending.headD_bounds closed
  have behind : branchesFrom access dividers dividers.elseIfs =
      (parseAlternatives tokens dividers.close (opener + 1) dividers.marks ascending).mapError
        .fault :=
    branchesFrom_eq gives leaves above ascending below others last (List.nil_append _).symm rfl
      ascending
  rw [branchNode, gives.token_eq above (by omega) opened, ok_bind,
    Dividers.boundaryAfter_opener ascending, leaves _ _ (by omega) bounds.1 (by omega), behind]
  cases parseRange tokens (opener + 1) _ with
  | error error => rfl
  | ok body => cases parseAlternatives tokens dividers.close (opener + 1) _ ascending <;> rfl

end Branch

theorem nodesFrom_eq {index : Nat} (above : start ≤ index) :
    nodesFrom access stop index = (parseRange tokens index stop).mapError .fault := by
  generalize count : stop - index = size
  induction size using Nat.strongRecOn generalizing index with
  | ind size ih =>
      by_cases below : index < stop
      · obtain ⟨token, found, given⟩ := gives index above below
        have further (next : Nat) (later : index < next) :
            nodesFrom access stop next = (parseRange tokens next stop).mapError .fault :=
          ih (stop - next) (by omega) (by omega) rfl
        have onward := further (index + 1) (Nat.lt_succ_self index)
        rw [parseRange, dif_pos below]
        simp only [found]
        cases kind : token.kind with
        | plain =>
            rw [nodesFrom, if_pos below, given, ok_bind]
            simp only [kind, onward]
            cases parseRange tokens (index + 1) stop <;> rfl
        | expression =>
            rw [nodesFrom, if_pos below, given, ok_bind]
            simp only [kind, onward]
            cases parseRange tokens (index + 1) stop <;> rfl
        | forLoop =>
            rw [nodesFrom_forLoop below given kind, seekEndFor_eq gives given (by omega)]
            cases ending : findEndFor? tokens stop 0 (index + 1) with
            | none => rfl
            | some close =>
                have bounds := findEndFor?_bounds ending
                have after := further (close + 1) (by omega)
                simp only [ok_bind]
                cases splitFor? token.text with
                | none => rfl
                | some header =>
                    simp only [leaves (index + 1) close (by omega) bounds.1 bounds.2, after]
                    cases parseRange tokens (index + 1) close with
                    | error error => rfl
                    | ok body => cases parseRange tokens (close + 1) stop <;> rfl
        | ifBranch =>
            have search : Divides tokens false
                (findMarks tokens token.location stop 0 false (index + 1))
                (seekDividers access index stop 0 false (index + 1)) :=
              divides_seekDividers gives given (Nat.le_succ_of_le above)
            rw [nodesFrom_ifBranch below given kind]
            dsimp only
            split
            · rename_i error marking
              rw [marking] at search
              rw [search]
              rfl
            · rename_i marks close marking
              have bounds := findMarks_bounds marking
              rw [marking] at search
              obtain ⟨elseIfs, elseMark, seek, rfl, _, others, last⟩ := search
              have after := further (close + 1) (by omega)
              have node := branchNode_eq gives leaves ⟨elseIfs, elseMark, close⟩ above bounds.2.2
                bounds.2.1 others last found bounds.1
              rw [seek, ok_bind, node]
              simp only [after, Dividers.marks]
              cases parseRange tokens (index + 1) _ with
              | error error => rfl
              | ok body =>
                  simp only [ok_bind]
                  cases parseAlternatives tokens close (index + 1) _ bounds.2.2 with
                  | error error => rfl
                  | ok alternatives => cases parseRange tokens (close + 1) stop <;> rfl
        | _ =>
            rw [nodesFrom, if_pos below, given, ok_bind]
            simp only [kind]
            rfl
      · rw [nodesFrom, if_neg below, parseRange, dif_neg below]
        rfl

end Call

namespace Access

variable {tokens : Array Token} {start stop : Nat}

theorem gives_within (inside : stop ≤ tokens.size) :
    (within tokens start stop).Gives tokens start stop := by
  intro index low high
  have bound : index < tokens.size := by omega
  have found : tokens[index]? = some tokens[index] := Array.getElem?_eq_getElem bound
  refine ⟨_, found, ?_⟩
  simp only [within, low, high, and_self, if_true, found]

theorem nodes_within (low high : Nat) (above : start < low) (ordered : low ≤ high)
    (below : high < stop) :
    (within tokens start stop).nodes low high = (parseRange tokens low high).mapError .fault :=
  if_pos (by omega)

variable {stretches : List Stretch} {stretch : Stretch} {access : Access}

theorem token_only (member : stretch ∈ stretches) :
    (access.only stretches).token stretch.tag = access.token stretch.tag :=
  if_pos (List.any_eq_true.mpr ⟨stretch, member, by simp⟩)

theorem nodes_only (member : stretch ∈ stretches) :
    (access.only stretches).nodes stretch.start stretch.stop =
      access.nodes stretch.start stretch.stop :=
  if_pos (List.any_eq_true.mpr ⟨stretch, member, by simp⟩)

end Access

theorem branchesFrom_only {access : Access} {dividers : Dividers} {opener : Nat}
    {front back : List Nat} (split : dividers.elseIfs = front ++ back) :
    branchesFrom (access.only (dividers.stretches opener)) dividers back =
      branchesFrom access dividers back := by
  induction back generalizing front with
  | nil =>
      rw [branchesFrom, branchesFrom]
      cases elseMark : dividers.elseMark with
      | none => rfl
      | some mark =>
          have member : ⟨mark, mark + 1, dividers.close⟩ ∈ dividers.stretches opener := by
            simp [Dividers.stretches, elseMark]
          simp only [Access.nodes_only member]
  | cons mark back ih =>
      have member : ⟨mark, mark + 1, dividers.boundaryAfter mark⟩ ∈ dividers.stretches opener := by
        simp [Dividers.stretches, split]
      have shifted : dividers.elseIfs = (front ++ [mark]) ++ back := by simp [split]
      have later := ih shifted
      rw [branchesFrom, branchesFrom, later, Access.token_only member, Access.nodes_only member]

/-- The node of a branch is made of the tags and the ranges of its stretches. -/
theorem branchNode_only (access : Access) (opener : Nat) (dividers : Dividers) :
    branchNode (access.only (dividers.stretches opener)) opener dividers =
      branchNode access opener dividers := by
  have member : ⟨opener, opener + 1, dividers.boundaryAfter opener⟩ ∈ dividers.stretches opener :=
    List.mem_cons_self
  rw [branchNode, branchNode, Access.token_only member, Access.nodes_only member,
    branchesFrom_only (List.nil_append _).symm]

/-- The nodes of a range are those of its tokens in a list of their own, or the same error. A call for
the range looks at no token outside it, and calls only for smaller ranges in it: given nothing else it
comes to the same end, and is refused nothing. The ranges that it calls for between the tags of a
branch cover the branch without a gap and do not overlap. -/
theorem parseRange_stays_in_range {tokens : Array Token} {start stop : Nat}
    (inside : stop ≤ tokens.size) :
    parseRange tokens start stop = parse (slice tokens start stop) ∧
    nodesFrom (.within tokens start stop) stop start =
      (parseRange tokens start stop).mapError .fault ∧
    ∀ opener token dividers, start ≤ opener → opener < stop → tokens[opener]? = some token →
      seekDividers (.within tokens start stop) opener stop 0 false (opener + 1) = .ok dividers →
      dividers.close < stop ∧
      (dividers.stretches opener).flatMap Stretch.positions ++ [dividers.close] =
        List.range' opener (dividers.close + 1 - opener) ∧
      branchNode ((Access.within tokens start stop).only (dividers.stretches opener)) opener
          dividers =
        branchNode (.within tokens start stop) opener dividers := by
  have gives : (Access.within tokens start stop).Gives tokens start stop :=
    Access.gives_within inside
  refine ⟨?_, nodesFrom_eq gives Access.nodes_within (Nat.le_refl start), ?_⟩
  · rw [parse_eq_ofTokens, parseRange_eq]
  · intro opener token dividers above below found seek
    have search : Divides tokens false
        (findMarks tokens token.location stop 0 false (opener + 1))
        (seekDividers (.within tokens start stop) opener stop 0 false (opener + 1)) :=
      divides_seekDividers gives (gives.token_eq above below found) (Nat.le_succ_of_le above)
    cases marking : findMarks tokens token.location stop 0 false (opener + 1) with
    | error error =>
        rw [marking, seek] at search
        cases search
    | ok marked =>
        obtain ⟨marks, close⟩ := marked
        have bounds := findMarks_bounds marking
        rw [marking, seek] at search
        obtain ⟨elseIfs, elseMark, same, rfl, _⟩ := search
        obtain rfl := Except.ok.inj same
        exact ⟨bounds.2.1, Dividers.positions_stretches (Nat.lt_of_succ_le bounds.1) bounds.2.2,
          branchNode_only _ opener _⟩

def branchInText : Array Token :=
  ([.plain, .ifBranch, .plain, .elseIf, .plain, .elseBranch, .plain, .endIf, .plain].map
    fun kind => ⟨kind, some "a", default⟩).toArray

theorem parseRange_branchInText :
    8 ≤ branchInText.size ∧
      parseRange branchInText 1 8 = parse (slice branchInText 1 8) ∧
      seekDividers (.within branchInText 1 8) 1 8 0 false 2 = .ok ⟨[3], some 5, 7⟩ ∧
      (Dividers.stretches ⟨[3], some 5, 7⟩ 1).flatMap Stretch.positions ++ [7] =
        List.range' 1 7 := by
  have inside : 8 ≤ branchInText.size := by decide
  have seek : seekDividers (.within branchInText 1 8) 1 8 0 false 2 = .ok ⟨[3], some 5, 7⟩ := by
    cbv
  obtain ⟨nodes, _, branches⟩ := @parseRange_stays_in_range branchInText 1 8 inside
  exact ⟨inside, nodes, seek,
    (branches 1 _ _ (by decide) (by decide) rfl seek).2.1⟩

end Stencil.Node
