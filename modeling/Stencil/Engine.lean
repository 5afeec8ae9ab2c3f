import Stencil.Repeat

/-!
An engine holds what a run is set up with: the tags, the files that can be included, and the
templates that are repeated, which are known by their normalized paths.
-/

namespace Stencil

structure Engine where
  tags : Tags := {}
  load : Loader := fun _ => none
  repeats : List (Path × RepeatSpec) := []

namespace Engine

variable {State : Type}

def addRepeat (engine : Engine) (path : Path) (spec : RepeatSpec) : Engine :=
  { engine with repeats := (path.normalize, spec) :: engine.repeats }

def repeatFor? (engine : Engine) (path : Path) : Option RepeatSpec :=
  engine.repeats.lookup path.normalize

def compile (engine : Engine) (name source : String) : Except TemplateError Template :=
  Template.compile engine.tags engine.load name source

def renderText (engine : Engine) (host : Host State) (context : Context) (name source : String) :
    Evaluation State TemplateError String := do
  match engine.compile name source with
  | .error error => throw error
  | .ok template => template.render host context

def process (engine : Engine) (host : Host State) (context : Context) (path : Path)
    (source : String) : Evaluation State TemplateError (List RenderedFile) := do
  match engine.compile path.toString source with
  | .error error => throw error
  | .ok template =>
      match engine.repeatFor? path with
      | some spec => spec.render host context engine.tags engine.load path template
      | none => return [⟨path, ← template.render host context⟩]

end Engine

end Stencil
