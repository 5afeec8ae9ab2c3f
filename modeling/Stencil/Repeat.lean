import Stencil.Template

/-!
Rendering one template into many files, one for each item of an array. Each file's name and body
are rendered in the same context, in which a variable stands for the item.
-/

namespace Stencil

structure RepeatSpec where
  iterable : String
  variableName : String
  filename : String
  deriving DecidableEq, Inhabited

structure RenderedFile where
  path : Path
  body : String
  deriving DecidableEq, Inhabited

namespace RepeatSpec

variable {State : Type}

def location (spec : RepeatSpec) (path : Path) : Location :=
  ⟨path.toString ++ " (repeat)", 1, 1, spec.iterable⟩

def filenameLabel (path : Path) : String := path.toString ++ " (repeat filename)"

/-- The items to repeat a template for. An iterable without a meaning here has none, and neither
has anything to be repeated; one that is not an array is at fault. -/
def items? (host : Host State) (context : Context) (spec : RepeatSpec) (path : Path) :
    Evaluation State TemplateError (Option (List Value)) := fun state =>
  match (Expression.ofSource spec.iterable).eval host context state with
  | (.ok (.array items), next) => (.ok (some items), next)
  | (.ok other, next) =>
      (.error (.render ⟨.mistyped (.notArray spec.iterable other.typeName), spec.location path⟩),
        next)
  | (.error fault, next) =>
      if fault.isMeaningless then (.ok none, next)
      else (.error (.render ⟨fault, spec.location path⟩), next)

def renderItem (host : Host State) (context : Context) (spec : RepeatSpec) (path : Path)
    (filename template : Template) (item : Value) :
    Evaluation State TemplateError RenderedFile := do
  let scope := context.child spec.variableName item
  let name ← filename.render host scope
  let body ← template.render host scope
  return ⟨path.directory.join (.ofString name), body⟩

def render (host : Host State) (context : Context) (tags : Tags) (load : Loader)
    (spec : RepeatSpec) (path : Path) (template : Template) :
    Evaluation State TemplateError (List RenderedFile) := do
  match ← spec.items? host context path with
  | none => return []
  | some items =>
      match Template.compile tags load (filenameLabel path) spec.filename with
      | .error error => throw error
      | .ok filename => items.mapM (spec.renderItem host context path filename template)

end RepeatSpec

end Stencil
