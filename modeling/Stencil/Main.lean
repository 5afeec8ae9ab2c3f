import Stencil.Command.Run

/-!
The program on a disk: every step of a script is done by the file system.
-/

namespace Stencil

def attempt (action : IO Unit) : IO Bool := do
  try
    action
    return true
  catch _ => return false

def readDisk (path : Path) : IO (Option String) := do
  try
    return some (← IO.FS.readFile path.toString)
  catch _ => return none

def inspectDisk (path : Path) : IO (Option FileKind) := do
  try
    let place ← IO.FS.realPath path.toString
    return some (if ← place.isDir then .directory else .file)
  catch _ => return none

def listDisk (path : Path) : IO (List String) := do
  try
    let place ← IO.FS.realPath path.toString
    return (← place.readDir).toList.map fun entry => entry.fileName
  catch _ => return []

def createOnDisk (path : Path) : IO Bool :=
  if path.chars.isEmpty then return true
  else attempt (IO.FS.createDirAll path.toString)

def Script.perform {α : Type} : Script α → IO α
  | .done value => return value
  | .read path next => do perform (next (← readDisk path))
  | .inspect path next => do perform (next (← inspectDisk path))
  | .list path next => do perform (next (← listDisk path))
  | .create path next => do perform (next (← createOnDisk path))
  | .write path text next => do
      perform (next (← attempt (IO.FS.writeFile path.toString text)))
  | .log message next => do
      IO.eprintln (" INFO gelato: " ++ message)
      perform next

end Stencil

def main (words : List String) : IO UInt32 := do
  let outcome ← (Stencil.Command.execute words).perform
  IO.print outcome.output
  match outcome.error with
  | some error => IO.eprintln error
  | none => pure ()
  return outcome.exitCode.toUInt32
