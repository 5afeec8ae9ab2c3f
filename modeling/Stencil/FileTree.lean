import Stencil.Script

/-!
A tree of files in memory, on which scripts can be run. An entry is known by its place; the working
directory, the directories above it and the root are always there.
-/

namespace Stencil

inductive FileEntry where
  | directory
  | text (content : String)
  | binary
  deriving DecidableEq

/-- The way to an entry from the working directory, last component first. -/
abbrev Place := List Path.Component

structure FileTree where
  entries : List (Place × FileEntry) := []

namespace FileTree

def isFixed (place : Place) : Bool :=
  place.all (· == .up) || place == [.root]

def entry? (tree : FileTree) (place : Place) : Option FileEntry :=
  if isFixed place then some .directory else tree.entries.lookup place

def put (tree : FileTree) (place : Place) (entry : FileEntry) : FileTree :=
  ⟨(place, entry) :: tree.entries.filter fun stored => stored.1 != place⟩

def follow (tree : FileTree) : List Path.Component → (place : Place) → Option Place
  | [], place => some place
  | component :: components, place =>
      match tree.entry? place with
      | some .directory => follow tree components (Path.resolveStep place component)
      | _ => none

def namesDirectory (path : Path) : Bool :=
  match (Path.splitSlashes path.chars).reverse with
  | _ :: [] => false
  | part :: _ => Path.isEmptyPart part
  | [] => false

def find? (tree : FileTree) (path : Path) : Option (Place × FileEntry) :=
  if path.chars.isEmpty then none
  else
    match tree.follow path.components [] with
    | none => none
    | some place =>
        match tree.entry? place with
        | none => none
        | some .directory => some (place, .directory)
        | some entry => if namesDirectory path then none else some (place, entry)

def read? (tree : FileTree) (path : Path) : Option String :=
  match tree.find? path with
  | some (_, .text content) => some content
  | _ => none

def kind? (tree : FileTree) (path : Path) : Option FileKind :=
  match tree.find? path with
  | some (_, .directory) => some .directory
  | some _ => some .file
  | none => none

def names (tree : FileTree) (path : Path) : List String :=
  match tree.find? path with
  | some (place, .directory) =>
      tree.entries.filterMap fun (stored, _) =>
        match stored with
        | .name name :: above => if above = place then some (String.ofList name) else none
        | _ => none
  | _ => []

def createAlong (tree : FileTree) :
    List Path.Component → (place : Place) → Option (FileTree × Place)
  | [], place => some (tree, place)
  | component :: components, place =>
      let next := Path.resolveStep place component
      match tree.entry? next with
      | some .directory => createAlong tree components next
      | none => createAlong (tree.put next .directory) components next
      | some _ => none

def create? (tree : FileTree) (path : Path) : Option FileTree :=
  (tree.createAlong path.components []).map Prod.fst

def write? (tree : FileTree) (path : Path) (text : String) : Option FileTree :=
  if namesDirectory path ∨ path.chars.isEmpty then none
  else
    match path.components.reverse with
    | .name name :: above =>
        match tree.follow above.reverse [] with
        | none => none
        | some place =>
            match tree.entry? place, tree.entry? (.name name :: place) with
            | some .directory, some .directory => none
            | some .directory, _ => some (tree.put (.name name :: place) (.text text))
            | _, _ => none
    | _ => none

def withFile (tree : FileTree) (path : Path) (entry : FileEntry) : FileTree :=
  let made := (tree.create? path.directory).getD tree
  made.put (Path.resolve path.components).reverse entry

def run {α : Type} (tree : FileTree) : Script α → α × FileTree × List String
  | .done value => (value, tree, [])
  | .read path next => run tree (next (tree.read? path))
  | .inspect path next => run tree (next (tree.kind? path))
  | .list path next => run tree (next (tree.names path))
  | .create path next =>
      match tree.create? path with
      | some made => run made (next true)
      | none => run tree (next false)
  | .write path text next =>
      match tree.write? path text with
      | some written => run written (next true)
      | none => run tree (next false)
  | .log message next =>
      let (value, after, messages) := run tree next
      (value, after, message :: messages)

def changes (before after : FileTree) : List (Place × String) :=
  after.entries.filterMap fun (place, entry) =>
    match entry with
    | .text content => if before.entry? place = some entry then none else some (place, content)
    | _ => none

end FileTree

end Stencil
