/-!
File paths. A path is text whose parts stand between slashes; empty parts and `.` parts do not
count, except that a relative path may start with `.`. Paths are resolved lexically: `..` cancels
the name before it, stays at the root, and otherwise remains in front.
-/

namespace Stencil

structure Path where
  chars : List Char
  deriving DecidableEq, Inhabited

namespace Path

inductive Component where
  | root
  | here
  | up
  | name (text : List Char)
  deriving DecidableEq

def ofString (text : String) : Path := ⟨text.toList⟩

def toString (path : Path) : String := String.ofList path.chars

def splitSlashes : List Char → List (List Char)
  | [] => [[]]
  | '/' :: text => [] :: splitSlashes text
  | character :: text =>
      match splitSlashes text with
      | [] => [[character]]
      | part :: parts => (character :: part) :: parts

def joinSlashes : List (List Char) → List Char
  | [] => []
  | [part] => part
  | part :: parts => part ++ '/' :: joinSlashes parts

def isEmptyPart (part : List Char) : Bool := part == [] || part == ['.']

def isAbsolute (path : Path) : Bool := path.chars.head? == some '/'

def startsHere (path : Path) : Bool := (splitSlashes path.chars).head? == some ['.']

def componentsOf (parts : List (List Char)) : List Component :=
  (parts.filter fun part => !isEmptyPart part).map fun part =>
    if part = ['.', '.'] then .up else .name part

def components (path : Path) : List Component :=
  let inner := componentsOf (splitSlashes path.chars)
  if path.isAbsolute then .root :: inner
  else if path.startsHere then .here :: inner
  else inner

def Component.text : Component → List Char
  | .root => ['/']
  | .here => ['.']
  | .up => ['.', '.']
  | .name text => text

def ofComponents : List Component → Path
  | .root :: components => ⟨'/' :: joinSlashes (components.map Component.text)⟩
  | components => ⟨joinSlashes (components.map Component.text)⟩

/-- One step of lexical resolution. The components passed so far are kept last first. -/
def resolveStep (stack : List Component) : Component → List Component
  | .here => stack
  | .up =>
      match stack with
      | .name _ :: below => below
      | .root :: below => .root :: below
      | stack => .up :: stack
  | component => component :: stack

def resolve (components : List Component) : List Component :=
  (components.foldl resolveStep []).reverse

def normalize (path : Path) : Path := ofComponents (resolve path.components)

def join (base path : Path) : Path :=
  if path.isAbsolute then path
  else
    match base.chars.getLast? with
    | none => path
    | some '/' => ⟨base.chars ++ path.chars⟩
    | some _ => ⟨base.chars ++ '/' :: path.chars⟩

/-- The characters of a path before its body: the root slash or the leading `.`. -/
def headLength (path : Path) : Nat := if path.isAbsolute || path.startsHere then 1 else 0

def parent? (path : Path) : Option Path :=
  let head := path.chars.take path.headLength
  let parts := (splitSlashes (path.chars.drop path.headLength)).reverse
  match parts.dropWhile isEmptyPart with
  | [] => if path.startsHere then some ⟨[]⟩ else none
  | _ :: parts => some ⟨head ++ joinSlashes (parts.dropWhile isEmptyPart).reverse⟩

def directory (path : Path) : Path := path.parent?.getD ⟨[]⟩

def Component.rank : Component → Nat
  | .root => 0
  | .here => 1
  | .up => 2
  | .name _ => 3

def Component.precedes (left right : Component) : Bool :=
  match left, right with
  | .name left, .name right => left < right
  | left, right => left.rank < right.rank

def componentsPrecede : List Component → List Component → Bool
  | _, [] => false
  | [], _ :: _ => true
  | left :: lefts, right :: rights =>
      left.precedes right || (left == right && componentsPrecede lefts rights)

def insertOrdered (path : Path) : List Path → List Path
  | [] => [path]
  | first :: rest =>
      if path.components = first.components then first :: rest
      else if componentsPrecede path.components first.components then path :: first :: rest
      else first :: insertOrdered path rest

end Path

end Stencil
