import Stencil.Path

/-!
Scripts are computations that ask for files. A script says what it wants to know or do next and how
it goes on with each answer, so that the same script can be run on a disk or on a tree of files
held in memory.
-/

namespace Stencil

inductive FileKind where
  | file
  | directory
  deriving DecidableEq, Repr

inductive Script (α : Type) where
  | done (value : α)
  | read (path : Path) (next : Option String → Script α)
  | inspect (path : Path) (next : Option FileKind → Script α)
  | list (path : Path) (next : List String → Script α)
  /-- Makes a directory with all those above it; the answer says whether it is there now. -/
  | create (path : Path) (next : Bool → Script α)
  | write (path : Path) (text : String) (next : Bool → Script α)
  | log (message : String) (next : Script α)

namespace Script

variable {α β : Type}

def andThen (script : Script α) (continuation : α → Script β) : Script β :=
  match script with
  | .done value => continuation value
  | .read path next => .read path fun answer => (next answer).andThen continuation
  | .inspect path next => .inspect path fun answer => (next answer).andThen continuation
  | .list path next => .list path fun answer => (next answer).andThen continuation
  | .create path next => .create path fun answer => (next answer).andThen continuation
  | .write path text next => .write path text fun answer => (next answer).andThen continuation
  | .log message next => .log message (next.andThen continuation)

instance : Monad Script where
  pure := .done
  bind := andThen

def readText (path : Path) : Script (Option String) := .read path .done

def kindAt (path : Path) : Script (Option FileKind) := .inspect path .done

def namesIn (path : Path) : Script (List String) := .list path .done

def createDirectories (path : Path) : Script Bool := .create path .done

def writeText (path : Path) (text : String) : Script Bool := .write path text .done

def report (message : String) : Script Unit := .log message (.done ())

def gather (script : α → Script (List β)) : List α → Script (List β)
  | [] => .done []
  | element :: elements => do
      let front ← script element
      let back ← gather script elements
      return front ++ back

end Script

end Stencil
