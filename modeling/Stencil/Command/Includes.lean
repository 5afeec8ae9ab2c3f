import Stencil.Engine
import Stencil.Script

/-!
Reading the files that a template includes. They are read level by level: those that the template
names, then those that these name, as deep as includes may go, and each of them once.
-/

namespace Stencil

structure ReadFiles where
  texts : List (Path × Option String) := []

namespace ReadFiles

def find? (files : ReadFiles) (path : Path) : Option (Option String) := files.texts.lookup path

def load (files : ReadFiles) : Loader := fun path => (files.find? path).join

def readAll (tags : Tags) : List Path → ReadFiles → Script (ReadFiles × List Path)
  | [], files => return (files, [])
  | path :: paths, files =>
      match files.find? path with
      | some _ => readAll tags paths files
      | none => do
          let text ← Script.readText path
          let (files, others) ← readAll tags paths ⟨(path, text) :: files.texts⟩
          let included :=
            match text with
            | some text => Token.includeTargets tags path.toString text.toList
            | none => []
          return (files, included ++ others)

def readLevels (tags : Tags) : (levels : Nat) → List Path → ReadFiles → Script ReadFiles
  | 0, _, files => return files
  | levels + 1, paths, files => do
      let (files, included) ← readAll tags paths files
      if included.isEmpty then return files else readLevels tags levels included files

end ReadFiles

namespace Engine

def includeTargets (engine : Engine) (path : Path) (source : String) : List Path :=
  let inSource := Token.includeTargets engine.tags path.toString source.toList
  match engine.repeatFor? path with
  | none => inSource
  | some spec =>
      inSource ++ Token.includeTargets engine.tags (RepeatSpec.filenameLabel path)
        spec.filename.toList

def withIncludes (engine : Engine) (path : Path) (source : String) : Script Engine := do
  let named := engine.includeTargets path source
  let files ← ReadFiles.readLevels engine.tags maxIncludeDepth named {}
  return { engine with load := files.load }

end Engine

end Stencil
