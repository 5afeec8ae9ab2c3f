import Stencil.Path
import Stencil.Token.Scan

/-!
Files held in memory. A file is known by its normalized path, so every spelling of the path finds
it, and storing a file again replaces its text.
-/

namespace Stencil

structure FileSet where
  stored : List (Path × String) := []
  deriving Inhabited

namespace FileSet

def insert (files : FileSet) (path : Path) (text : String) : FileSet :=
  ⟨(path.normalize, text) :: files.stored⟩

def load (files : FileSet) : Loader := fun path => files.stored.lookup path.normalize

end FileSet

end Stencil
