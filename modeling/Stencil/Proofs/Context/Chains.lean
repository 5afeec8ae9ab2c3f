import Stencil.Proofs.Context.References

/-!
The chain that a frame begins depends on nothing but the bindings of the frames in it, so that
counting references, and adding frames, changes what no frame stands for.
-/

namespace Stencil

def SharedFrame.contents (stored : SharedFrame) : Entries Value × Option Nat :=
  (stored.bindings, stored.behind)

namespace SharedContexts

variable {roots : List (Option Nat)} {frames others : List SharedFrame} {frame : Nat}
  {stored : SharedFrame}

def contentsAt (frames : List SharedFrame) (frame : Nat) : Option (Entries Value × Option Nat) :=
  frames[frame]?.map SharedFrame.contents

theorem chain_none (frames : List SharedFrame) (steps : Nat) : chain frames steps none = [] := by
  cases steps <;> rfl

theorem chain_found (found : frames[frame]? = some stored) (steps : Nat) :
    chain frames (steps + 1) (some frame) =
      stored.bindings :: chain frames steps stored.behind := by
  rw [chain, found]

theorem chain_missing (missing : frames[frame]? = none) (steps : Nat) :
    chain frames steps (some frame) = [] := by
  cases steps with
  | zero => rfl
  | succ steps => rw [chain, missing]

/-- Chains do not change as long as the frames in them do not. -/
theorem chain_congr {keeps : Nat → Prop}
    (alike : ∀ frame, keeps frame → contentsAt others frame = contentsAt frames frame)
    (closed : ∀ frame (stored : SharedFrame) behind, keeps frame → frames[frame]? = some stored →
      stored.behind = some behind → keeps behind) (steps : Nat) {root : Option Nat}
    (kept : ∀ frame, root = some frame → keeps frame) :
    chain others steps root = chain frames steps root := by
  induction steps generalizing root with
  | zero => rfl
  | succ steps ih =>
      cases root with
      | none => rfl
      | some frame =>
          have same := alike frame (kept frame rfl)
          rw [contentsAt, contentsAt] at same
          cases found : frames[frame]? with
          | none =>
              rw [found, Option.map_none, Option.map_eq_none_iff] at same
              rw [chain_missing found, chain_missing same]
          | some stored =>
              rw [found, Option.map_some, Option.map_eq_some_iff] at same
              obtain ⟨other, place, contents⟩ := same
              rw [SharedFrame.contents, SharedFrame.contents, Prod.mk.injEq] at contents
              rw [chain_found found, chain_found place, contents.1, contents.2]
              rw [ih fun behind outer => closed frame stored behind (kept frame rfl) found outer]

/-- The frames of a chain descend, so that as many steps as there are positions are enough. -/
theorem chain_enough (counted : Counted roots frames) {steps more : Nat} {root : Option Nat}
    (enough : ∀ frame, root = some frame → frame < steps) (atLeast : steps ≤ more) :
    chain frames more root = chain frames steps root := by
  induction steps generalizing more root with
  | zero =>
      cases root with
      | none => rw [chain_none, chain_none]
      | some frame => exact absurd (enough frame rfl) (Nat.not_lt_zero frame)
  | succ steps ih =>
      obtain ⟨more, rfl⟩ : ∃ fewer, more = fewer + 1 := ⟨more - 1, by omega⟩
      cases root with
      | none => rw [chain_none, chain_none]
      | some frame =>
          cases found : frames[frame]? with
          | none => rw [chain_missing found, chain_missing found]
          | some stored =>
              rw [chain_found found, chain_found found]
              rw [ih (fun behind outer => ?_) (by omega)]
              have below := counted.descends frame stored behind found outer
              have bound := enough frame rfl
              omega

def standing (frames : List SharedFrame) (frame : Nat) : Context :=
  match chain frames frames.length (some frame) with
  | [] => {}
  | bindings :: outer => { bindings, outer }

theorem standing_eq (counted : Counted roots frames) (found : frames[frame]? = some stored) :
    standing frames frame = ⟨stored.bindings, chain frames frames.length stored.behind⟩ := by
  have inside := (List.getElem?_eq_some_iff.mp found).1
  obtain ⟨steps, length⟩ : ∃ steps, frames.length = steps + 1 := ⟨frames.length - 1, by omega⟩
  rw [standing, length, chain_found found, chain_enough counted _ (Nat.le_succ steps)]
  intro behind outer
  have below := counted.descends frame stored behind found outer
  omega

/-- A chain keeps what it is in other frames that have the same contents where the chain goes. -/
theorem chain_kept {keeps : Nat → Prop} (counted : Counted roots frames)
    (alike : ∀ frame, keeps frame → contentsAt others frame = contentsAt frames frame)
    (closed : ∀ frame (stored : SharedFrame) behind, keeps frame → frames[frame]? = some stored →
      stored.behind = some behind → keeps behind)
    {root : Option Nat} (kept : ∀ frame, root = some frame → keeps frame)
    (inside : ∀ frame, root = some frame → frame < frames.length)
    (longer : frames.length ≤ others.length) :
    chain others others.length root = chain frames frames.length root := by
  rw [chain_congr alike closed others.length kept, chain_enough counted inside longer]

theorem contentsAt_set (changed : SharedFrame) (inside : frame < frames.length) (other : Nat) :
    contentsAt (frames.set frame changed) other =
      if other = frame then some changed.contents else contentsAt frames other := by
  by_cases same : other = frame
  · subst same
    simp [contentsAt, inside]
  · simp [contentsAt, List.getElem?_set_ne (Ne.symm same), same]

theorem contentsAt_set_references (found : frames[frame]? = some stored) (references other : Nat) :
    contentsAt (frames.set frame { stored with references }) other = contentsAt frames other := by
  rw [contentsAt_set _ (List.getElem?_eq_some_iff.mp found).1]
  split
  · rename_i same
    rw [same, contentsAt, found]
    rfl
  · rfl

theorem contentsAt_append (fresh : SharedFrame) (inside : frame < frames.length) :
    contentsAt (frames ++ [fresh]) frame = contentsAt frames frame := by
  rw [contentsAt, contentsAt, List.getElem?_append_left inside]

theorem contentsAt_retain (frame other : Nat) (frames : List SharedFrame) :
    contentsAt (retain frame frames) other = contentsAt frames other := by
  rw [retain, List.modify_eq_set_getElem?]
  cases found : frames[frame]? with
  | none => rfl
  | some stored => exact contentsAt_set_references found _ other

theorem contentsAt_retainAny (behind : Option Nat) (other : Nat) (frames : List SharedFrame) :
    contentsAt (retainAny behind frames) other = contentsAt frames other := by
  cases behind with
  | none => rfl
  | some frame => exact contentsAt_retain frame other frames

theorem contentsAt_copied (found : frames[frame]? = some stored) (bindings : Entries Value)
    {other : Nat} (inside : other < frames.length) :
    contentsAt (copied frames frame stored bindings) other = contentsAt frames other := by
  rw [copied, contentsAt_append, contentsAt_retainAny, contentsAt_set_references found]
  rwa [length_retainAny, List.length_set]

theorem contentsAt_release (steps frame other : Nat) (frames : List SharedFrame) :
    contentsAt (release steps frame frames) other = contentsAt frames other := by
  induction steps generalizing frame frames with
  | zero => rfl
  | succ steps ih =>
      cases found : frames[frame]? with
      | none => simp only [release, found]
      | some stored =>
          rw [release_succ steps found]
          split
          · exact contentsAt_set_references found _ other
          · rw [ih, contentsAt_set_references found]

theorem length_release (steps frame : Nat) (frames : List SharedFrame) :
    (release steps frame frames).length = frames.length := by
  induction steps generalizing frame frames with
  | zero => rfl
  | succ steps ih =>
      cases found : frames[frame]? with
      | none => simp only [release, found]
      | some stored =>
          rw [release_succ steps found]
          split
          · exact List.length_set
          · rw [ih, List.length_set]

/-- What is added behind the last frame is in no chain of the frames that there have been. -/
theorem chain_of_contentsAt (counted : Counted roots frames)
    (alike : ∀ frame, frame < frames.length → contentsAt others frame = contentsAt frames frame)
    {root : Option Nat} (inside : ∀ frame, root = some frame → frame < frames.length)
    (longer : frames.length ≤ others.length) :
    chain others others.length root = chain frames frames.length root := by
  refine chain_kept counted alike ?_ inside inside longer
  intro frame stored behind inside found outer
  have below := counted.descends frame stored behind found outer
  omega

theorem standing_of_chain {frame other : Nat}
    (same : chain others others.length (some other) = chain frames frames.length (some frame)) :
    standing others other = standing frames frame := by
  rw [standing, standing, same]

theorem standing_of_contentsAt (counted : Counted roots frames)
    (alike : ∀ frame, frame < frames.length → contentsAt others frame = contentsAt frames frame)
    (inside : frame < frames.length) (longer : frames.length ≤ others.length) :
    standing others frame = standing frames frame :=
  standing_of_chain (chain_of_contentsAt counted alike (by simpa using inside) longer)

theorem standing_behind (counted : Counted roots frames) (found : frames[frame]? = some stored)
    {behind : Nat} (outer : stored.behind = some behind) :
    standing frames frame =
      ⟨stored.bindings, (standing frames behind).bindings :: (standing frames behind).outer⟩ := by
  have below := counted.descends frame stored behind found outer
  have inside := (List.getElem?_eq_some_iff.mp found).1
  have place : frames[behind]? = some frames[behind] := List.getElem?_eq_getElem (by omega)
  obtain ⟨steps, length⟩ : ∃ steps, frames.length = steps + 1 := ⟨frames.length - 1, by omega⟩
  rw [standing_eq counted found, outer, standing, length, chain_found place]

/-- A frame that no frame in use refers to is in no chain but the one it begins. -/
theorem chain_set_of_unused (counted : Counted roots frames) (changed : SharedFrame)
    (inside : frame < frames.length) (unused : ∀ user ∈ frames, user.refersTo frame = false)
    {root : Option Nat}
    (apart : ∀ other, root = some other → other ≠ frame ∧ 0 < referencesTo frames other) :
    chain (frames.set frame changed) (frames.set frame changed).length root =
      chain frames frames.length root := by
  have alike : ∀ other, other ≠ frame ∧ 0 < referencesTo frames other →
      contentsAt (frames.set frame changed) other = contentsAt frames other := by
    rintro other ⟨different, -⟩
    rw [contentsAt_set changed inside, if_neg different]
  refine chain_kept counted alike ?_ apart ?_ (Nat.le_of_eq List.length_set.symm)
  · rintro other user behind ⟨-, used⟩ found outer
    rw [referencesTo_of_getElem? found] at used
    refine ⟨?_, counted.referencesTo_behind found (by omega) outer⟩
    rintro rfl
    have unreferred := unused user (List.mem_of_getElem? found)
    simp [SharedFrame.refersTo, Nat.ne_of_gt used, outer] at unreferred
  · intro other refers
    obtain ⟨stored, found, -⟩ := exists_getElem?_of_referencesTo (apart other refers).2
    exact (List.getElem?_eq_some_iff.mp found).1

variable {contexts : SharedContexts} {handle : Nat}

theorem context_of_frameOf? (held : contexts.frameOf? handle = some frame) :
    contexts.context handle = standing contexts.frames frame := by
  rw [context, held]
  rfl

end SharedContexts

end Stencil
