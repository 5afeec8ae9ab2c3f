import Stencil.Context

/-!
Contexts that share their frames. Each frame counts the handles and frames that refer to it. An
assignment through a handle changes the handle's frame in place when nothing else refers to it, and
otherwise gives the handle a copy of its own, so that no other handle ever sees the change.
-/

namespace Stencil

structure SharedFrame where
  bindings : Entries Value
  behind : Option Nat
  references : Nat

/-- Handles refer to frames by their position; a dropped handle refers to none. -/
structure SharedContexts where
  frames : List SharedFrame
  handles : List (Option Nat)

namespace SharedContexts

def frameOf? (contexts : SharedContexts) (handle : Nat) : Option Nat :=
  (contexts.handles[handle]?).join

def retain (frame : Nat) (frames : List SharedFrame) : List SharedFrame :=
  frames.modify frame fun stored => { stored with references := stored.references + 1 }

/-- Takes one reference from a frame. A frame that loses its last one no longer refers to the frame
behind it, at a smaller position. -/
def release : (steps : Nat) → (frame : Nat) → List SharedFrame → List SharedFrame
  | 0, _, frames => frames
  | steps + 1, frame, frames =>
      match frames[frame]? with
      | none => frames
      | some stored =>
          let fewer := frames.set frame { stored with references := stored.references - 1 }
          match stored.references, stored.behind with
          | 1, some behind => release steps behind fewer
          | _, _ => fewer

def set (contexts : SharedContexts) (handle : Nat) (name : String) (value : Value) :
    SharedContexts :=
  match contexts.frameOf? handle with
  | none => contexts
  | some frame =>
      match contexts.frames[frame]? with
      | none => contexts
      | some stored =>
          let bindings := stored.bindings.insert name value
          if stored.references = 1 then
            { contexts with frames := contexts.frames.set frame { stored with bindings } }
          else
            let fewer := contexts.frames.set frame
              { stored with references := stored.references - 1 }
            let kept :=
              match stored.behind with
              | none => fewer
              | some behind => retain behind fewer
            { frames := kept ++ [⟨bindings, stored.behind, 1⟩]
              handles := contexts.handles.set handle (some contexts.frames.length) }

def clone (contexts : SharedContexts) (handle : Nat) : SharedContexts :=
  match contexts.frameOf? handle with
  | none => { contexts with handles := contexts.handles ++ [none] }
  | some frame =>
      { frames := retain frame contexts.frames
        handles := contexts.handles ++ [some frame] }

def withValue (contexts : SharedContexts) (handle : Nat) (name : String) (value : Value) :
    SharedContexts :=
  (contexts.clone handle).set contexts.handles.length name value

def child (contexts : SharedContexts) (handle : Nat) (name : String) (value : Value) :
    SharedContexts :=
  match contexts.frameOf? handle with
  | none => { contexts with handles := contexts.handles ++ [none] }
  | some frame =>
      { frames := retain frame contexts.frames ++ [⟨[(name, value)], some frame, 1⟩]
        handles := contexts.handles ++ [some contexts.frames.length] }

def drop (contexts : SharedContexts) (handle : Nat) : SharedContexts :=
  match contexts.frameOf? handle with
  | none => contexts
  | some frame =>
      { frames := release contexts.frames.length frame contexts.frames
        handles := contexts.handles.set handle none }

def chain (frames : List SharedFrame) : (steps : Nat) → Option Nat → List (Entries Value)
  | 0, _ => []
  | _, none => []
  | steps + 1, some frame =>
      match frames[frame]? with
      | none => []
      | some stored => stored.bindings :: chain frames steps stored.behind

def context (contexts : SharedContexts) (handle : Nat) : Context :=
  match chain contexts.frames contexts.frames.length (contexts.frameOf? handle) with
  | [] => {}
  | bindings :: outer => { bindings, outer }

def get? (contexts : SharedContexts) (handle : Nat) (name : String) : Option Value :=
  (contexts.context handle).get? name

def ofContext (entries : Entries Value) : SharedContexts := ⟨[⟨entries, none, 1⟩], [some 0]⟩

end SharedContexts

end Stencil
