import Stencil.Proofs.Context.Chains

/-!
Contexts that share their frames behave as if every handle had a map of its own: an assignment is
seen through the handle it goes to and through no other.
-/

namespace Stencil

/-- A map of its own for every handle, and none for a handle that has been dropped. -/
structure Snapshots where
  maps : List (Option (String → Option Value))

inductive ContextStep where
  | set (handle : Nat) (name : String) (value : Value)
  | setFunction (handle : Nat) (function : Function)
  | withValue (handle : Nat) (name : String) (value : Value)
  | child (handle : Nat) (name : String) (value : Value)
  | clone (handle : Nat)
  | drop (handle : Nat)

namespace Snapshots

def rebind (name : String) (value : Value) (map : String → Option Value) : String → Option Value :=
  fun other => if other = name then some value else map other

def mapOf? (snapshots : Snapshots) (handle : Nat) : Option (String → Option Value) :=
  (snapshots.maps[handle]?).join

def get? (snapshots : Snapshots) (handle : Nat) (name : String) : Option Value :=
  (snapshots.mapOf? handle).bind fun map => map name

def set (snapshots : Snapshots) (handle : Nat) (name : String) (value : Value) : Snapshots :=
  ⟨snapshots.maps.modify handle (Option.map (rebind name value))⟩

def clone (snapshots : Snapshots) (handle : Nat) : Snapshots :=
  ⟨snapshots.maps ++ [snapshots.mapOf? handle]⟩

def withValue (snapshots : Snapshots) (handle : Nat) (name : String) (value : Value) : Snapshots :=
  (snapshots.clone handle).set snapshots.maps.length name value

def child (snapshots : Snapshots) (handle : Nat) (name : String) (value : Value) : Snapshots :=
  ⟨snapshots.maps ++ [(snapshots.mapOf? handle).map (rebind name value)]⟩

def drop (snapshots : Snapshots) (handle : Nat) : Snapshots := ⟨snapshots.maps.set handle none⟩

def ofEntries (entries : Entries Value) : Snapshots := ⟨[some fun name => entries.find? name]⟩

theorem get?_set_of_ne (snapshots : Snapshots) {handle other : Nat} (different : other ≠ handle)
    (name : String) (value : Value) (key : String) :
    (snapshots.set handle name value).get? other key = snapshots.get? other key := by
  rw [get?, get?, mapOf?, mapOf?, set, List.getElem?_modify_ne _ _ (Ne.symm different)]

/-- Nothing can be bound in a map that has been dropped. -/
theorem set_of_dropped {snapshots : Snapshots} {handle : Nat}
    (dropped : snapshots.mapOf? handle = none) (name : String) (value : Value) :
    snapshots.set handle name value = snapshots := by
  rw [set, mk.injEq]
  refine List.ext_getElem? fun other => ?_
  by_cases same : handle = other
  · subst same
    rw [mapOf?] at dropped
    rw [List.getElem?_modify_eq]
    rcases place : snapshots.maps[handle]? with _ | _ | map
    · rfl
    · rfl
    · rw [place] at dropped
      cases dropped
  · rw [List.getElem?_modify_ne _ _ same]

theorem drop_of_dropped {snapshots : Snapshots} {handle : Nat}
    (dropped : snapshots.mapOf? handle = none) : snapshots.drop handle = snapshots := by
  rw [drop, mk.injEq]
  refine List.ext_getElem? fun other => ?_
  by_cases same : handle = other
  · subst same
    rw [mapOf?] at dropped
    rw [List.getElem?_set]
    rcases place : snapshots.maps[handle]? with _ | _ | map
    · simp [List.getElem?_eq_none_iff.mp place]
    · simp [(List.getElem?_eq_some_iff.mp place).1]
    · rw [place] at dropped
      cases dropped
  · rw [List.getElem?_set_ne same]

def step (snapshots : Snapshots) : ContextStep → Snapshots
  | .set handle name value => snapshots.set handle name value
  | .setFunction handle function => snapshots.set handle function.name (.function function)
  | .withValue handle name value => snapshots.withValue handle name value
  | .child handle name value => snapshots.child handle name value
  | .clone handle => snapshots.clone handle
  | .drop handle => snapshots.drop handle

end Snapshots

namespace SharedContexts

def step (contexts : SharedContexts) : ContextStep → SharedContexts
  | .set handle name value => contexts.set handle name value
  | .setFunction handle function => contexts.set handle function.name (.function function)
  | .withValue handle name value => contexts.withValue handle name value
  | .child handle name value => contexts.child handle name value
  | .clone handle => contexts.clone handle
  | .drop handle => contexts.drop handle

def mapOf (frames : List SharedFrame) (root : Option Nat) : Option (String → Option Value) :=
  root.map fun frame => (standing frames frame).get?

def snapshots (contexts : SharedContexts) : Snapshots :=
  ⟨contexts.handles.map (mapOf contexts.frames)⟩

variable {contexts : SharedContexts} {frames : List SharedFrame} {handle frame : Nat}
  {stored : SharedFrame}

theorem get?_set_eq (context : Context) (name : String) (value : Value) :
    (context.set name value).get? = Snapshots.rebind name value context.get? :=
  funext fun other => context.get?_set name other value

theorem get?_child_eq (context : Context) (name : String) (value : Value) :
    (context.child name value).get? = Snapshots.rebind name value context.get? :=
  funext fun other => context.get?_child name other value

theorem mapOf?_snapshots (contexts : SharedContexts) (handle : Nat) :
    contexts.snapshots.mapOf? handle = mapOf contexts.frames (contexts.frameOf? handle) := by
  rw [snapshots, Snapshots.mapOf?, List.getElem?_map, frameOf?]
  rcases contexts.handles[handle]? with _ | _ | frame <;> rfl

theorem get?_snapshots (contexts : SharedContexts) (handle : Nat) (name : String) :
    contexts.snapshots.get? handle name = contexts.get? handle name := by
  rw [Snapshots.get?, mapOf?_snapshots, get?]
  cases held : contexts.frameOf? handle with
  | none =>
      rw [context, held, chain_none]
      rfl
  | some frame =>
      rw [context_of_frameOf? held]
      rfl

theorem mapOf_congr {root : Option Nat}
    (kept : ∀ frame, root = some frame → standing frames frame = standing contexts.frames frame) :
    mapOf frames root = mapOf contexts.frames root := by
  cases root with
  | none => rfl
  | some frame => rw [mapOf, mapOf, Option.map_some, Option.map_some, kept frame rfl]

theorem map_mapOf_congr (kept : ∀ handle frame, contexts.frameOf? handle = some frame →
      standing frames frame = standing contexts.frames frame) :
    contexts.handles.map (mapOf frames) = contexts.handles.map (mapOf contexts.frames) := by
  refine List.map_congr_left fun root member => mapOf_congr fun frame refers => ?_
  obtain ⟨handle, place⟩ := List.mem_iff_getElem?.mp member
  exact kept handle frame ((frameOf?_of_getElem? place).trans refers)

theorem snapshots_grow (root : Option Nat)
    (kept : ∀ handle frame, contexts.frameOf? handle = some frame →
      standing frames frame = standing contexts.frames frame) :
    (⟨frames, contexts.handles ++ [root]⟩ : SharedContexts).snapshots =
      ⟨contexts.snapshots.maps ++ [mapOf frames root]⟩ := by
  rw [snapshots, snapshots, List.map_append, map_mapOf_congr kept, List.map_singleton]

theorem snapshots_assign {name : String} {value : Value} {fresh : Nat}
    (held : contexts.frameOf? handle = some frame)
    (own : standing frames fresh = (standing contexts.frames frame).set name value)
    (kept : ∀ other frame, other ≠ handle → contexts.frameOf? other = some frame →
      standing frames frame = standing contexts.frames frame) :
    (⟨frames, contexts.handles.set handle (some fresh)⟩ : SharedContexts).snapshots =
      contexts.snapshots.set handle name value := by
  have place := getElem?_of_frameOf? held
  have inside := (List.getElem?_eq_some_iff.mp place).1
  rw [snapshots, snapshots, Snapshots.set, Snapshots.mk.injEq]
  refine List.ext_getElem? fun other => ?_
  by_cases same : handle = other
  · subst same
    rw [List.getElem?_map, List.getElem?_set_self inside, List.getElem?_modify_eq,
      List.getElem?_map, place]
    simp [mapOf, own, get?_set_eq]
  · rw [List.getElem?_map, List.getElem?_set_ne same, List.getElem?_modify_ne _ _ same,
      List.getElem?_map]
    cases found : contexts.handles[other]? with
    | none => rfl
    | some root =>
        have agree : mapOf frames root = mapOf contexts.frames root :=
          mapOf_congr fun frame refers =>
            kept other frame (Ne.symm same) ((frameOf?_of_getElem? found).trans refers)
        rw [Option.map_some, Option.map_some, agree]

variable (counted : contexts.WellCounted)

include counted

theorem lt_length_of_frameOf? (held : contexts.frameOf? handle = some frame) :
    frame < contexts.frames.length := by
  obtain ⟨stored, found, -⟩ := counted.exists_frame held
  exact (List.getElem?_eq_some_iff.mp found).1

theorem snapshots_clone (handle : Nat) :
    (contexts.clone handle).snapshots = contexts.snapshots.clone handle := by
  rw [Snapshots.clone, mapOf?_snapshots]
  cases held : contexts.frameOf? handle with
  | none =>
      rw [clone, held]
      exact snapshots_grow none fun _ _ _ => rfl
  | some frame =>
      have kept : ∀ other root, contexts.frameOf? other = some root →
          standing (retain frame contexts.frames) root = standing contexts.frames root := by
        intro other root refers
        refine standing_of_contentsAt counted (fun _ _ => contentsAt_retain _ _ _)
          (lt_length_of_frameOf? counted refers) ?_
        exact Nat.le_of_eq (List.length_modify _ _ _).symm
      have same : mapOf (retain frame contexts.frames) (some frame) =
          mapOf contexts.frames (some frame) :=
        mapOf_congr fun root refers => kept handle root (held.trans refers)
      rw [clone, held, ← same]
      exact snapshots_grow (some frame) kept

theorem snapshots_child (handle : Nat) (name : String) (value : Value) :
    (contexts.child handle name value).snapshots = contexts.snapshots.child handle name value := by
  rw [Snapshots.child, mapOf?_snapshots]
  cases held : contexts.frameOf? handle with
  | none =>
      rw [child, held]
      exact snapshots_grow none fun _ _ _ => rfl
  | some frame =>
      let fresh : SharedFrame := ⟨[(name, value)], some frame, 1⟩
      have length : (retain frame contexts.frames).length = contexts.frames.length := by
        rw [retain, List.length_modify]
      have alike : ∀ other, other < contexts.frames.length →
          contentsAt (retain frame contexts.frames ++ [fresh]) other =
            contentsAt contexts.frames other := by
        intro other inside
        rw [contentsAt_append fresh (length ▸ inside), contentsAt_retain]
      have kept : ∀ other root, contexts.frameOf? other = some root →
          standing (retain frame contexts.frames ++ [fresh]) root =
            standing contexts.frames root := by
        intro other root refers
        refine standing_of_contentsAt counted alike (lt_length_of_frameOf? counted refers) ?_
        rw [List.length_append, length]
        exact Nat.le_add_right _ _
      have grown := counted.child handle name value
      rw [child, held] at grown ⊢
      have last : (retain frame contexts.frames ++ [fresh])[contexts.frames.length]? =
          some fresh := by
        rw [← length, List.getElem?_concat_length]
      have own : standing (retain frame contexts.frames ++ [fresh]) contexts.frames.length =
          (standing contexts.frames frame).child name value := by
        rw [standing_behind grown last rfl, kept handle frame held]
        rfl
      have bound : mapOf (retain frame contexts.frames ++ [fresh]) (some contexts.frames.length) =
          (mapOf contexts.frames (some frame)).map (Snapshots.rebind name value) := by
        simp only [mapOf, Option.map_some, own, get?_child_eq]
      rw [← bound]
      exact snapshots_grow (some contexts.frames.length) kept

theorem snapshots_drop (handle : Nat) :
    (contexts.drop handle).snapshots = contexts.snapshots.drop handle := by
  cases held : contexts.frameOf? handle with
  | none =>
      have dropped : contexts.snapshots.mapOf? handle = none := by
        rw [mapOf?_snapshots, held]
        rfl
      rw [drop, held, Snapshots.drop_of_dropped dropped]
  | some frame =>
      have kept : ∀ other root, contexts.frameOf? other = some root →
          standing (release contexts.frames.length frame contexts.frames) root =
            standing contexts.frames root := by
        intro other root refers
        exact standing_of_contentsAt counted (fun _ _ => contentsAt_release _ _ _ _)
          (lt_length_of_frameOf? counted refers) (Nat.le_of_eq (length_release _ _ _).symm)
      rw [drop, held, Snapshots.drop, snapshots, snapshots, List.map_set, map_mapOf_congr kept]
      rfl

theorem snapshots_set_alone (held : contexts.frameOf? handle = some frame)
    (found : contexts.frames[frame]? = some stored) (alone : stored.references = 1)
    (name : String) (value : Value) :
    (contexts.set handle name value).snapshots = contexts.snapshots.set handle name value := by
  obtain ⟨only, unused⟩ := (references_eq_one_iff counted held found).mp alone
  have inside := (List.getElem?_eq_some_iff.mp found).1
  let changed : SharedFrame := { stored with bindings := stored.bindings.insert name value }
  have handles : contexts.handles.set handle (some frame) = contexts.handles := by
    obtain ⟨bound, same⟩ := List.getElem?_eq_some_iff.mp (getElem?_of_frameOf? held)
    rw [← same, List.set_getElem_self]
  have assigned : (⟨contexts.frames.set frame changed,
      contexts.handles.set handle (some frame)⟩ : SharedContexts).snapshots =
        contexts.snapshots.set handle name value := by
    refine snapshots_assign held ?_ ?_
    · have rebound := Counted.rebind counted found (stored.bindings.insert name value)
      have place : (contexts.frames.set frame changed)[frame]? = some changed :=
        List.getElem?_set_self inside
      have outer : chain (contexts.frames.set frame changed)
          (contexts.frames.set frame changed).length stored.behind =
            chain contexts.frames contexts.frames.length stored.behind := by
        refine chain_set_of_unused counted changed inside unused fun behind outer => ?_
        have below := Counted.descends counted frame stored behind found outer
        exact ⟨by omega, Counted.referencesTo_behind counted found (by omega) outer⟩
      rw [standing_eq rebound place, standing_eq counted found, Context.set, outer]
    · intro other root different refers
      refine standing_of_chain (chain_set_of_unused counted changed inside unused ?_)
      rintro _ ⟨⟩
      refine ⟨fun same => different (only other (same ▸ refers)), ?_⟩
      exact Counted.referencesTo_root counted (List.mem_of_getElem? (getElem?_of_frameOf? refers))
  rw [handles] at assigned
  rw [set_eq held found, if_pos alone]
  exact assigned

theorem snapshots_set_shared (held : contexts.frameOf? handle = some frame)
    (found : contexts.frames[frame]? = some stored) (shared : stored.references ≠ 1)
    (name : String) (value : Value) :
    (contexts.set handle name value).snapshots = contexts.snapshots.set handle name value := by
  let frames := copied contexts.frames frame stored (stored.bindings.insert name value)
  have longer : contexts.frames.length ≤ frames.length := by
    rw [length_copied]
    exact Nat.le_succ _
  have alike : ∀ other, other < contexts.frames.length →
      contentsAt frames other = contentsAt contexts.frames other :=
    fun _ inside => contentsAt_copied found _ inside
  rw [set_eq held found, if_neg shared]
  refine snapshots_assign held ?_ ?_
  · have grown := (counted.exchange held).copied found shared (stored.bindings.insert name value)
    have last : frames[contexts.frames.length]? =
        some ⟨stored.bindings.insert name value, stored.behind, 1⟩ := getElem?_copied _ _ _
    have outer : chain frames frames.length stored.behind =
        chain contexts.frames contexts.frames.length stored.behind := by
      refine chain_of_contentsAt counted alike ?_ longer
      intro behind outer
      have below := Counted.descends counted frame stored behind found outer
      have inside := (List.getElem?_eq_some_iff.mp found).1
      omega
    rw [standing_eq grown last, standing_eq counted found, Context.set, outer]
  · intro other root different refers
    exact standing_of_contentsAt counted alike (lt_length_of_frameOf? counted refers) longer

theorem snapshots_set (handle : Nat) (name : String) (value : Value) :
    (contexts.set handle name value).snapshots = contexts.snapshots.set handle name value := by
  cases held : contexts.frameOf? handle with
  | none =>
      have dropped : contexts.snapshots.mapOf? handle = none := by
        rw [mapOf?_snapshots, held]
        rfl
      rw [set, held, Snapshots.set_of_dropped dropped]
  | some frame =>
      obtain ⟨stored, found, -⟩ := counted.exists_frame held
      by_cases alone : stored.references = 1
      · exact snapshots_set_alone counted held found alone name value
      · exact snapshots_set_shared counted held found alone name value

theorem snapshots_step (step : ContextStep) :
    (contexts.step step).WellCounted ∧
      (contexts.step step).snapshots = contexts.snapshots.step step := by
  cases step with
  | set handle name value => exact ⟨counted.set _ _ _, snapshots_set counted _ _ _⟩
  | setFunction handle function => exact ⟨counted.set _ _ _, snapshots_set counted _ _ _⟩
  | withValue handle name value =>
      refine ⟨counted.withValue _ _ _, ?_⟩
      have sizes : contexts.snapshots.maps.length = contexts.handles.length := List.length_map _
      simp only [step, Snapshots.step, withValue, Snapshots.withValue]
      rw [snapshots_set (counted.clone handle), snapshots_clone counted, sizes]
  | child handle name value => exact ⟨counted.child _ _ _, snapshots_child counted _ _ _⟩
  | clone handle => exact ⟨counted.clone _, snapshots_clone counted _⟩
  | drop handle => exact ⟨counted.drop _, snapshots_drop counted _⟩

omit counted in
theorem snapshots_ofContext (entries : Entries Value) :
    (ofContext entries).snapshots = .ofEntries entries := by
  rw [snapshots, Snapshots.ofEntries, Snapshots.mk.injEq]
  have alone : (standing (ofContext entries).frames 0).get? = fun name => entries.find? name := by
    funext name
    show Context.findIn name [entries] = _
    rw [Context.findIn]
    cases entries.find? name <;> rfl
  show [mapOf (ofContext entries).frames (some 0)] = _
  rw [mapOf, Option.map_some, alone]

theorem snapshots_run (steps : List ContextStep) :
    (steps.foldl step contexts).WellCounted ∧
      (steps.foldl step contexts).snapshots = steps.foldl Snapshots.step contexts.snapshots := by
  induction steps generalizing contexts with
  | nil => exact ⟨counted, rfl⟩
  | cons first steps ih =>
      obtain ⟨kept, stepped⟩ := snapshots_step counted first
      rw [List.foldl_cons, List.foldl_cons, ← stepped]
      exact ih kept

theorem frameOf?_set_eq_iff (held : contexts.frameOf? handle = some frame) (name : String)
    (value : Value) :
    (contexts.set handle name value).frameOf? handle = some frame ↔
      (∀ other, contexts.frameOf? other = some frame → other = handle) ∧
        ∀ user ∈ contexts.frames, user.refersTo frame = false := by
  obtain ⟨stored, found, -⟩ := counted.exists_frame held
  rw [← references_eq_one_iff counted held found, set_eq held found]
  by_cases alone : stored.references = 1
  · rw [if_pos alone]
    exact iff_of_true held alone
  · rw [if_neg alone]
    refine iff_of_false ?_ alone
    have inside := lt_length_of_frameOf? counted held
    have bound := (List.getElem?_eq_some_iff.mp (getElem?_of_frameOf? held)).1
    rw [frameOf?, List.getElem?_set_self bound, Option.join_some, Option.some.injEq]
    omega

omit counted in
/-- After any steps every handle finds what it finds in a map of its own, every frame knows how many
handles and frames in use refer to it, a handle keeps its frame in an assignment exactly when nothing
else refers to the frame, and no assignment is seen through another handle. -/
theorem get?_run_eq_snapshots (entries : Entries Value) (steps : List ContextStep) :
    let contexts := steps.foldl step (ofContext entries)
    (∀ handle name, contexts.get? handle name =
      (steps.foldl Snapshots.step (.ofEntries entries)).get? handle name) ∧
    (∀ frame stored, contexts.frames[frame]? = some stored → stored.references =
      contexts.handles.count (some frame) + contexts.frames.countP (·.refersTo frame)) ∧
    (∀ handle frame, contexts.frameOf? handle = some frame → ∀ name value,
      (contexts.set handle name value).frameOf? handle = some frame ↔
        (∀ other, contexts.frameOf? other = some frame → other = handle) ∧
          ∀ user ∈ contexts.frames, user.refersTo frame = false) ∧
    ∀ handle other name value, other ≠ handle → ∀ key,
      (contexts.set handle name value).get? other key = contexts.get? other key := by
  intro contexts
  obtain ⟨counted, same⟩ := snapshots_run (WellCounted.ofContext entries) steps
  rw [snapshots_ofContext] at same
  refine ⟨?_, ?_, ?_, ?_⟩
  · intro handle name
    rw [← get?_snapshots, same]
  · intro frame stored found
    rw [← counted.counts, referencesTo_of_getElem? found]
  · intro handle frame held name value
    exact frameOf?_set_eq_iff counted held name value
  · intro handle other name value different key
    rw [← get?_snapshots, snapshots_set counted, Snapshots.get?_set_of_ne _ different,
      get?_snapshots]

end SharedContexts

end Stencil
