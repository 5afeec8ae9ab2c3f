/-!
Places in template sources, as diagnostics show them: a file, a line and a column counted from
one, and the text of that line with a caret under the column.
-/

namespace Stencil

structure Location where
  file : String
  line : Nat
  column : Nat
  lineText : String
  deriving DecidableEq, Inhabited

namespace Location

def gutter : String := String.ofList (List.replicate 16 ' ')

def text (location : Location) : String :=
  "(" ++ location.file ++ ":" ++ toString location.line ++ ":" ++ toString location.column ++
    ")\n" ++ gutter ++ location.lineText ++ "\n" ++ gutter ++
    String.ofList (List.replicate (location.column - 1) ' ') ++ "^"

end Location

end Stencil
