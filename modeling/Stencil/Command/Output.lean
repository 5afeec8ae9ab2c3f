import Stencil.Repeat

/-!
Where rendered files go. Only the names in the path of a rendered file count, so that it cannot
leave the directory for the output, and its name loses one `.gel` at the end.
-/

namespace Stencil

namespace Path

def names (path : Path) : List (List Char) :=
  path.components.filterMap fun component =>
    match component with
    | .name text => some text
    | _ => none

def templateSuffix : List Char := ['.', 'g', 'e', 'l']

def dropTemplateSuffix (text : List Char) : List Char :=
  if templateSuffix.isSuffixOf text then text.take (text.length - templateSuffix.length) else text

def output (path : Path) : Path := ⟨dropTemplateSuffix (joinSlashes path.names)⟩

end Path

def RenderedFile.target (dest : Path) (file : RenderedFile) : Path := dest.join file.path.output

end Stencil
