import Mathlib.Data.List.Basic
import Stencil.Context.Sharing

/-!
The number that a shared frame keeps is the number of handles and of frames in use that refer to it,
whatever has been done with the handles.
-/

namespace Stencil

def SharedFrame.refersTo (stored : SharedFrame) (frame : Nat) : Bool :=
  stored.references != 0 && stored.behind == some frame

namespace SharedContexts

def referencesTo (frames : List SharedFrame) (frame : Nat) : Nat :=
  match frames[frame]? with
  | none => 0
  | some stored => stored.references

/-- Every frame is referred to exactly as often as it says: by the roots, which are the handles and
what an operation has in hand, and by frames in use. -/
structure Counted (roots : List (Option Nat)) (frames : List SharedFrame) : Prop where
  descends : ∀ frame (stored : SharedFrame) behind, frames[frame]? = some stored →
    stored.behind = some behind → behind < frame
  counts : ∀ frame, referencesTo frames frame =
    roots.count (some frame) + frames.countP (·.refersTo frame)

variable {roots others : List (Option Nat)} {frames : List SharedFrame} {frame : Nat}
  {stored : SharedFrame}

theorem referencesTo_of_getElem? (found : frames[frame]? = some stored) :
    referencesTo frames frame = stored.references := by
  rw [referencesTo, found]

theorem referencesTo_of_le (outside : frames.length ≤ frame) : referencesTo frames frame = 0 := by
  rw [referencesTo, List.getElem?_eq_none outside]

theorem exists_getElem?_of_referencesTo (used : 0 < referencesTo frames frame) :
    ∃ stored, frames[frame]? = some stored ∧ stored.references ≠ 0 := by
  cases found : frames[frame]? with
  | none =>
      rw [referencesTo, found] at used
      contradiction
  | some stored =>
      rw [referencesTo_of_getElem? found] at used
      exact ⟨stored, rfl, by omega⟩

theorem referencesTo_set (changed : SharedFrame) (inside : frame < frames.length) (other : Nat) :
    referencesTo (frames.set frame changed) other =
      if other = frame then changed.references else referencesTo frames other := by
  by_cases same : other = frame
  · subst same
    simp [referencesTo, inside]
  · simp [referencesTo, List.getElem?_set_ne (Ne.symm same), same]

theorem referencesTo_append (fresh : SharedFrame) (other : Nat) :
    referencesTo (frames ++ [fresh]) other =
      if other = frames.length then fresh.references else referencesTo frames other := by
  by_cases last : other = frames.length
  · subst last
    simp [referencesTo]
  · by_cases old : other < frames.length
    · simp [referencesTo, List.getElem?_append_left old, last]
    · have beyond : (frames ++ [fresh]).length ≤ other := by
        rw [List.length_append, List.length_singleton]
        omega
      rw [if_neg last, referencesTo_of_le beyond, referencesTo_of_le (by omega)]

theorem countP_set {α : Type} {items : List α} {place : Nat} {item : α} (holds : α → Bool)
    (changed : α) (found : items[place]? = some item) :
    (items.set place changed).countP holds + (holds item).toNat =
      items.countP holds + (holds changed).toNat := by
  obtain ⟨inside, rfl⟩ := List.getElem?_eq_some_iff.mp found
  rw [List.countP_set inside]
  cases held : holds items[place] with
  | false => cases holds changed <;> simp
  | true =>
      have counted : 0 < items.countP holds :=
        List.countP_pos_iff.mpr ⟨_, List.getElem_mem inside, held⟩
      cases holds changed <;> simp <;> omega

namespace Counted

theorem of_count (counted : Counted roots frames)
    (same : ∀ frame, others.count (some frame) = roots.count (some frame)) :
    Counted others frames :=
  ⟨counted.descends, fun frame => by rw [counted.counts, same]⟩

theorem referencesTo_root (counted : Counted roots frames) (held : some frame ∈ roots) :
    0 < referencesTo frames frame := by
  have positive : 0 < roots.count (some frame) := List.count_pos_iff.mpr held
  rw [counted.counts]
  omega

theorem exists_root (counted : Counted roots frames) (held : some frame ∈ roots) :
    ∃ stored, frames[frame]? = some stored ∧ stored.references ≠ 0 :=
  exists_getElem?_of_referencesTo (counted.referencesTo_root held)

theorem used_of_root (counted : Counted (some frame :: roots) frames)
    (found : frames[frame]? = some stored) : stored.references ≠ 0 := by
  obtain ⟨kept, place, used⟩ := counted.exists_root List.mem_cons_self
  obtain rfl : kept = stored := Option.some.inj (place.symm.trans found)
  exact used

theorem referencesTo_behind (counted : Counted roots frames)
    (found : frames[frame]? = some stored) (used : stored.references ≠ 0) {behind : Nat}
    (outer : stored.behind = some behind) : 0 < referencesTo frames behind := by
  have refers : stored.refersTo behind = true := by
    simp [SharedFrame.refersTo, used, outer]
  have positive : 0 < frames.countP (·.refersTo behind) :=
    List.countP_pos_iff.mpr ⟨stored, List.mem_of_getElem? found, refers⟩
  rw [counted.counts]
  omega

/-- A frame changes and the roots change; what is gained on one side is gained on the other. -/
theorem set (counted : Counted roots frames) (found : frames[frame]? = some stored)
    {changed : SharedFrame} (same : changed.behind = stored.behind)
    (balanced : ∀ other, (if other = frame then changed.references else referencesTo frames other) +
        roots.count (some other) + (stored.refersTo other).toNat =
      referencesTo frames other + others.count (some other) + (changed.refersTo other).toNat) :
    Counted others (frames.set frame changed) := by
  have inside := (List.getElem?_eq_some_iff.mp found).1
  constructor
  · intro other kept behind place outer
    rw [List.getElem?_set] at place
    split at place
    · rename_i this
      subst this
      rw [Option.some.injEq] at place
      subst place
      exact counted.descends frame stored behind found (same ▸ outer)
    · exact counted.descends other kept behind place outer
  · intro other
    have users := countP_set (·.refersTo other) changed found
    have total := counted.counts other
    have balance := balanced other
    rw [referencesTo_set changed inside]
    omega

theorem rebind (counted : Counted roots frames) (found : frames[frame]? = some stored)
    (bindings : Entries Value) : Counted roots (frames.set frame { stored with bindings }) := by
  refine counted.set found rfl fun other => ?_
  have alike : ({ stored with bindings } : SharedFrame).refersTo other = stored.refersTo other := rfl
  by_cases same : other = frame
  · subst same
    rw [alike, if_pos rfl, referencesTo_of_getElem? found]
  · rw [alike, if_neg same]

theorem count_cons (root : Option Nat) (other : Nat) :
    (root :: roots).count (some other) = roots.count (some other) + (root == some other).toNat := by
  rw [List.count_cons]
  cases root == some other <;> rfl

theorem retain (counted : Counted roots frames) (found : frames[frame]? = some stored)
    (used : stored.references ≠ 0) :
    Counted (some frame :: roots) (SharedContexts.retain frame frames) := by
  have changed : SharedContexts.retain frame frames =
      frames.set frame { stored with references := stored.references + 1 } := by
    rw [SharedContexts.retain, List.modify_eq_set_getElem?, found]
    rfl
  rw [changed]
  refine counted.set found rfl fun other => ?_
  have alike : ({ stored with references := stored.references + 1 } : SharedFrame).refersTo other =
      stored.refersTo other := by
    simp [SharedFrame.refersTo, used]
  rw [alike, count_cons]
  by_cases same : other = frame
  · subst same
    simp only [if_true, referencesTo_of_getElem? found, beq_self_eq_true, Bool.toNat_true]
    omega
  · have apart : (some frame == some other) = false := by simp [Ne.symm same]
    simp only [same, if_false, apart, Bool.toNat_false]
    omega

/-- One root less. What a frame refers to that is in use no longer becomes a root. -/
theorem spend (counted : Counted (some frame :: roots) frames)
    (found : frames[frame]? = some stored) :
    Counted ((if stored.references = 1 then stored.behind else none) :: roots)
      (frames.set frame { stored with references := stored.references - 1 }) := by
  have used := counted.used_of_root found
  refine counted.set found rfl fun other => ?_
  have roots_eq : (if other = frame then stored.references - 1 else referencesTo frames other) +
      (some frame == some other).toNat = referencesTo frames other := by
    by_cases same : other = frame
    · subst same
      simp only [if_true, referencesTo_of_getElem? found, beq_self_eq_true, Bool.toNat_true]
      omega
    · simp [same, Ne.symm same]
  have users_eq : (stored.refersTo other).toNat =
      ((if stored.references = 1 then stored.behind else none) == some other).toNat +
        (({ stored with references := stored.references - 1 } : SharedFrame).refersTo other).toNat
      := by
    by_cases last : stored.references = 1
    · simp [SharedFrame.refersTo, last]
    · have before : (stored.references != 0) = true := bne_iff_ne.mpr used
      have after : (stored.references - 1 != 0) = true := bne_iff_ne.mpr (by omega)
      simp only [SharedFrame.refersTo, last, before, after, if_false]
      simp
  rw [count_cons, count_cons]
  simp only at roots_eq users_eq ⊢
  omega

/-- A new frame takes over a root and becomes one. -/
theorem append {behind : Option Nat} (counted : Counted (behind :: roots) frames)
    (bindings : Entries Value) :
    Counted (some frames.length :: roots) (frames ++ [⟨bindings, behind, 1⟩]) := by
  constructor
  · intro other kept outer place refers
    by_cases old : other < frames.length
    · rw [List.getElem?_append_left old] at place
      exact counted.descends other kept outer place refers
    · have last : other = frames.length := by
        have := (List.getElem?_eq_some_iff.mp place).1
        simp only [List.length_append, List.length_singleton] at this
        omega
      subst last
      simp only [List.getElem?_concat_length, Option.some.injEq] at place
      subst place
      have held : some outer ∈ behind :: roots := refers ▸ List.mem_cons_self
      obtain ⟨stored, found, -⟩ := counted.exists_root held
      exact (List.getElem?_eq_some_iff.mp found).1
  · intro other
    have total := counted.counts other
    have refers : (⟨bindings, behind, 1⟩ : SharedFrame).refersTo other = (behind == some other) := by
      simp [SharedFrame.refersTo]
    rw [count_cons] at total
    rw [count_cons, List.countP_append, List.countP_singleton, refers, referencesTo_append]
    have user : (if (behind == some other) = true then 1 else 0) = (behind == some other).toNat := by
      cases behind == some other <;> rfl
    rw [user]
    by_cases last : other = frames.length
    · subst last
      rw [referencesTo_of_le (Nat.le_refl _)] at total
      simp only [if_true, beq_self_eq_true, Bool.toNat_true]
      omega
    · have apart : (some frames.length == some other) = false := by simp [Ne.symm last]
      simp only [last, if_false, apart, Bool.toNat_false]
      omega

end Counted

theorem Counted.none_cons : Counted (none :: roots) frames ↔ Counted roots frames :=
  ⟨fun counted => counted.of_count fun frame => by rw [count_cons]; rfl,
    fun counted => counted.of_count fun frame => by rw [count_cons]; rfl⟩

theorem release_succ (steps : Nat) (found : frames[frame]? = some stored) :
    release (steps + 1) frame frames =
      let fewer := frames.set frame { stored with references := stored.references - 1 }
      match if stored.references = 1 then stored.behind else none with
      | none => fewer
      | some behind => release steps behind fewer := by
  simp only [release, found]
  by_cases last : stored.references = 1
  · cases stored.behind <;> simp [last]
  · simp [last]

theorem Counted.release (counted : Counted (some frame :: roots) frames) {steps : Nat}
    (enough : frame < steps) : Counted roots (SharedContexts.release steps frame frames) := by
  induction steps generalizing frame frames with
  | zero => omega
  | succ steps ih =>
      obtain ⟨stored, found, -⟩ := counted.exists_root List.mem_cons_self
      have spent := counted.spend found
      rw [release_succ steps found]
      cases left : if stored.references = 1 then stored.behind else none with
      | none =>
          rw [left] at spent
          exact none_cons.mp spent
      | some behind =>
          -- The reference that the frame behind loses is the one that became a root.
          rw [left] at spent
          have outer : stored.behind = some behind := by
            by_cases last : stored.references = 1
            · rwa [if_pos last] at left
            · simp [last] at left
          have lower := counted.descends frame stored behind found outer
          exact ih spent (by omega)

/-- What a handle refers to can be exchanged for what an operation has in hand. -/
theorem Counted.exchange {handles : List (Option Nat)} {handle : Nat} {root fresh : Option Nat}
    (counted : Counted (fresh :: handles) frames) (held : handles[handle]? = some root) :
    Counted (root :: handles.set handle fresh) frames := by
  refine counted.of_count fun other => ?_
  have exchanged := countP_set (· == some other) fresh held
  rw [count_cons, count_cons, List.count_eq_countP, List.count_eq_countP]
  exact exchanged

theorem Counted.append_root {root : Option Nat} (counted : Counted (root :: roots) frames) :
    Counted (roots ++ [root]) frames :=
  counted.of_count fun _ => (List.perm_append_singleton root roots).count_eq _

variable {contexts : SharedContexts} {handle : Nat}

theorem frameOf?_of_getElem? {root : Option Nat} (place : contexts.handles[handle]? = some root) :
    contexts.frameOf? handle = root := by
  rw [frameOf?, place]
  rfl

theorem getElem?_of_frameOf? (held : contexts.frameOf? handle = some frame) :
    contexts.handles[handle]? = some (some frame) := by
  rwa [frameOf?, Option.join_eq_some_iff] at held

def retainAny : Option Nat → List SharedFrame → List SharedFrame
  | none, frames => frames
  | some frame, frames => retain frame frames

theorem length_retainAny (behind : Option Nat) (frames : List SharedFrame) :
    (retainAny behind frames).length = frames.length := by
  cases behind with
  | none => rfl
  | some frame => exact List.length_modify _ _ _

def copied (frames : List SharedFrame) (frame : Nat) (stored : SharedFrame)
    (bindings : Entries Value) : List SharedFrame :=
  retainAny stored.behind
    (frames.set frame { stored with references := stored.references - 1 }) ++
      [⟨bindings, stored.behind, 1⟩]

theorem set_eq (held : contexts.frameOf? handle = some frame)
    (found : contexts.frames[frame]? = some stored) (name : String) (value : Value) :
    contexts.set handle name value =
      if stored.references = 1 then
        { contexts with
          frames := contexts.frames.set frame
            { stored with bindings := stored.bindings.insert name value } }
      else
        { frames := copied contexts.frames frame stored (stored.bindings.insert name value)
          handles := contexts.handles.set handle (some contexts.frames.length) } := by
  simp only [set, held, found, copied]
  cases stored.behind <;> rfl

theorem length_copied (frame : Nat) (stored : SharedFrame) (bindings : Entries Value) :
    (copied frames frame stored bindings).length = frames.length + 1 := by
  rw [copied, List.length_append, length_retainAny, List.length_set, List.length_singleton]

theorem getElem?_copied (frame : Nat) (stored : SharedFrame) (bindings : Entries Value) :
    (copied frames frame stored bindings)[frames.length]? = some ⟨bindings, stored.behind, 1⟩ := by
  have sizes : (retainAny stored.behind (frames.set frame
      { stored with references := stored.references - 1 })).length = frames.length := by
    rw [length_retainAny, List.length_set]
  rw [copied, ← sizes, List.getElem?_concat_length]

theorem Counted.copied (counted : Counted (some frame :: roots) frames)
    (found : frames[frame]? = some stored) (shared : stored.references ≠ 1)
    (bindings : Entries Value) :
    Counted (some frames.length :: roots) (copied frames frame stored bindings) := by
  have spent := counted.spend found
  rw [if_neg shared] at spent
  have used := counted.used_of_root found
  have inside := (List.getElem?_eq_some_iff.mp found).1
  let fewer := frames.set frame { stored with references := stored.references - 1 }
  have retained : Counted (stored.behind :: roots) (retainAny stored.behind fewer) := by
    cases outer : stored.behind with
    | none => exact spent
    | some behind =>
        have live := spent.referencesTo_behind
          (List.getElem?_set_self inside) (show stored.references - 1 ≠ 0 by omega) outer
        obtain ⟨next, place, live⟩ := exists_getElem?_of_referencesTo live
        exact (none_cons.mp spent).retain place live
  have sizes : (retainAny stored.behind fewer).length = frames.length := by
    rw [length_retainAny, List.length_set]
  have appended := retained.append bindings
  rwa [sizes] at appended

def WellCounted (contexts : SharedContexts) : Prop := Counted contexts.handles contexts.frames

theorem WellCounted.exchange (counted : contexts.WellCounted)
    (held : contexts.frameOf? handle = some frame) :
    Counted (some frame :: contexts.handles.set handle none) contexts.frames :=
  (Counted.none_cons.mpr counted).exchange (getElem?_of_frameOf? held)

theorem WellCounted.exists_frame (counted : contexts.WellCounted)
    (held : contexts.frameOf? handle = some frame) :
    ∃ stored, contexts.frames[frame]? = some stored ∧ stored.references ≠ 0 :=
  Counted.exists_root counted (List.mem_of_getElem? (getElem?_of_frameOf? held))

/-- A frame with one reference has no other handle, and no frame in use in front of it. -/
theorem references_eq_one_iff (counted : contexts.WellCounted)
    (held : contexts.frameOf? handle = some frame)
    (found : contexts.frames[frame]? = some stored) :
    stored.references = 1 ↔
      (∀ other, contexts.frameOf? other = some frame → other = handle) ∧
        ∀ user ∈ contexts.frames, user.refersTo frame = false := by
  have total := (counted.exchange held).counts frame
  rw [referencesTo_of_getElem? found, Counted.count_cons, beq_self_eq_true, Bool.toNat_true] at total
  have others_iff : (contexts.handles.set handle none).count (some frame) = 0 ↔
      ∀ other, contexts.frameOf? other = some frame → other = handle := by
    rw [List.count_eq_zero, List.mem_iff_getElem?]
    constructor
    · intro absent other refers
      by_cases same : other = handle
      · exact same
      · refine absurd ⟨other, ?_⟩ absent
        rw [List.getElem?_set_ne (Ne.symm same)]
        exact getElem?_of_frameOf? refers
    · rintro only ⟨other, place⟩
      by_cases same : handle = other
      · simp [List.getElem?_set, same] at place
      · rw [List.getElem?_set_ne same] at place
        exact same (only other (frameOf?_of_getElem? place)).symm
  have users_iff : contexts.frames.countP (·.refersTo frame) = 0 ↔
      ∀ user ∈ contexts.frames, user.refersTo frame = false := by
    simp only [List.countP_eq_zero, Bool.not_eq_true]
  rw [← others_iff, ← users_iff]
  omega

namespace WellCounted

theorem ofContext (entries : Entries Value) : (ofContext entries).WellCounted := by
  constructor
  · intro frame stored behind found outer
    obtain rfl : stored = ⟨entries, none, 1⟩ :=
      List.mem_singleton.mp (List.mem_of_getElem? found)
    contradiction
  · intro frame
    cases frame <;> simp [SharedContexts.ofContext, referencesTo, SharedFrame.refersTo]

theorem set (counted : contexts.WellCounted) (handle : Nat) (name : String) (value : Value) :
    (contexts.set handle name value).WellCounted := by
  cases held : contexts.frameOf? handle with
  | none => simpa only [SharedContexts.set, held] using counted
  | some frame =>
      obtain ⟨stored, found, -⟩ := counted.exists_frame held
      rw [set_eq held found]
      split
      · exact Counted.rebind counted found _
      · rename_i shared
        have taken := counted.exchange held
        have fresh := taken.copied found shared (stored.bindings.insert name value)
        have cleared : (contexts.handles.set handle none)[handle]? = some none := by
          have inside := (List.getElem?_eq_some_iff.mp (getElem?_of_frameOf? held)).1
          exact List.getElem?_set_self inside
        have given := fresh.exchange cleared
        rw [List.set_set] at given
        exact Counted.none_cons.mp given

theorem clone (counted : contexts.WellCounted) (handle : Nat) :
    (contexts.clone handle).WellCounted := by
  cases held : contexts.frameOf? handle with
  | none =>
      rw [SharedContexts.clone, held]
      exact (Counted.none_cons.mpr counted).append_root
  | some frame =>
      obtain ⟨stored, found, used⟩ := counted.exists_frame held
      rw [SharedContexts.clone, held]
      exact (Counted.retain counted found used).append_root

theorem child (counted : contexts.WellCounted) (handle : Nat) (name : String) (value : Value) :
    (contexts.child handle name value).WellCounted := by
  cases held : contexts.frameOf? handle with
  | none =>
      rw [SharedContexts.child, held]
      exact (Counted.none_cons.mpr counted).append_root
  | some frame =>
      obtain ⟨stored, found, used⟩ := counted.exists_frame held
      have fresh := (Counted.retain counted found used).append [(name, value)]
      rw [SharedContexts.retain, List.length_modify] at fresh
      rw [SharedContexts.child, held]
      exact fresh.append_root

theorem withValue (counted : contexts.WellCounted) (handle : Nat) (name : String)
    (value : Value) : (contexts.withValue handle name value).WellCounted :=
  (counted.clone handle).set _ name value

theorem drop (counted : contexts.WellCounted) (handle : Nat) :
    (contexts.drop handle).WellCounted := by
  cases held : contexts.frameOf? handle with
  | none => simpa only [SharedContexts.drop, held] using counted
  | some frame =>
      obtain ⟨stored, found, -⟩ := counted.exists_frame held
      have inside := (List.getElem?_eq_some_iff.mp found).1
      rw [SharedContexts.drop, held]
      exact (counted.exchange held).release inside

end WellCounted

end SharedContexts

end Stencil
