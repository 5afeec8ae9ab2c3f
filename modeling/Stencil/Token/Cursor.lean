import Stencil.Location

/-!
A cursor moves through a source and counts lines and columns as it goes.
-/

namespace Stencil

structure Cursor where
  line : Nat
  column : Nat
  lineTail : List Char
  rest : List Char

namespace Cursor

def ofSource (source : List Char) : Cursor := ⟨1, 1, source, source⟩

def step (cursor : Cursor) : Cursor :=
  match cursor.rest with
  | [] => cursor
  | '\n' :: rest => ⟨cursor.line + 1, 1, rest, rest⟩
  | _ :: rest => { cursor with column := cursor.column + 1, rest }

def advance : (count : Nat) → Cursor → Cursor
  | 0, cursor => cursor
  | count + 1, cursor => advance count cursor.step

def dropReturn (line : List Char) : List Char :=
  if line.getLast? = some '\r' then line.dropLast else line

def lineText (lineTail : List Char) : List Char :=
  dropReturn (lineTail.takeWhile fun character => character != '\n')

def location (cursor : Cursor) (file : String) : Location where
  file
  line := cursor.line
  column := cursor.column
  lineText := String.ofList (lineText cursor.lineTail)

end Cursor

end Stencil
