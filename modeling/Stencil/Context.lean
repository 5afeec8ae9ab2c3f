import Stencil.Json.Basic
import Stencil.Value.Json

/-!
Contexts bind names to values. A context is a chain of frames: a child puts a frame with one
binding in front of its parent's, so that it hides a name without changing it.
-/

namespace Stencil

structure Context where
  bindings : Entries Value := []
  outer : List (Entries Value) := []
  deriving Inhabited

namespace Context

def empty : Context := {}

def set (context : Context) (name : String) (value : Value) : Context :=
  { context with bindings := context.bindings.insert name value }

def child (context : Context) (name : String) (value : Value) : Context where
  bindings := [(name, value)]
  outer := context.bindings :: context.outer

def findIn (name : String) : List (Entries Value) → Option Value
  | [] => none
  | frame :: frames =>
      match frame.find? name with
      | some value => some value
      | none => findIn name frames

def get? (context : Context) (name : String) : Option Value :=
  findIn name (context.bindings :: context.outer)

def contains (context : Context) (name : String) : Bool := (context.get? name).isSome

def ofEntries (entries : List (String × Value)) : Context :=
  entries.foldl (fun context (name, value) => context.set name value) empty

def ofJson? : Json → Option Context
  | .object entries => some (ofEntries (Value.entriesOfJson entries))
  | _ => none

theorem get?_set (context : Context) (name other : String) (value : Value) :
    (context.set name value).get? other =
      if other = name then some value else context.get? other := by
  by_cases named : other = name
  · simp [get?, set, findIn, Entries.find?_insert, named]
  · simp [get?, set, findIn, Entries.find?_insert, named]

theorem get?_child (context : Context) (name other : String) (value : Value) :
    (context.child name value).get? other =
      if other = name then some value else context.get? other := by
  by_cases named : other = name
  · simp [get?, child, findIn, Entries.find?, named]
  · simp [get?, child, findIn, Entries.find?, named]

end Context

end Stencil
