import Stencil.Proofs.FileTree.Growth
import Stencil.Proofs.FileTree.Runs

/-!
Writing the outputs of a template. Each goes to its place with the directories above it, one after the
other, until one cannot be written.
-/

namespace Stencil

open FileTree Script

def RunError.IsOfWriting : RunError → Prop
  | .notCreated _ => True
  | .notWritten _ => True
  | _ => False

namespace Command

def readingText (template : Path) : String := "Reading " ++ template.toString

def writingText (dest template : Path) (file : RenderedFile) : String :=
  "Done writing " ++ template.toString ++ " -> " ++ (file.target dest).toString

def reports (dest : Path) (handled : Path × List RenderedFile) : List String :=
  readingText handled.1 :: handled.2.map (writingText dest handled.1)

def writes (dest : Path) (files : List RenderedFile) : List (Place × String) :=
  files.map fun file => ((file.target dest).place, file.body)

variable {tree current : FileTree} {written : List (Place × String)}

def FailsToWrite {α : Type} (outcome : Except RunError α) : Prop :=
  ∃ error, outcome = .error error ∧ error.IsOfWriting

namespace FailsToWrite

variable {α β : Type} {attempt : Attempt α} {next : α → Attempt β}

theorem bind (fails : FailsToWrite (tree.run attempt.run).1) :
    FailsToWrite (tree.run (attempt >>= next).run).1 := by
  obtain ⟨error, failed, own⟩ := fails
  have stopped : tree.run attempt.run = (.error error, (tree.run attempt.run).2) := by
    rw [← failed]
  refine ⟨error, ?_, own⟩
  rw [run_bind_of_error stopped]

theorem behind {value : α} {messages : List String}
    (first : tree.run attempt.run = (.ok value, current, messages))
    (fails : FailsToWrite (current.run (next value).run).1) :
    FailsToWrite (tree.run (attempt >>= next).run).1 := by
  rwa [run_bind_of_ok first rfl]

end FailsToWrite

theorem run_createParent (grown : Grown tree written current) (target : Path) :
    (∃ after, current.run (createParent target).run = (.ok (), after, []) ∧
      Grown tree written after) ∨
    FailsToWrite (current.run (createParent target).run).1 := by
  rw [createParent]
  cases target.parent? with
  | none => exact .inl ⟨current, rfl, grown⟩
  | some parent =>
      cases made : current.create? parent with
      | none =>
          have refused : current.run (Script.createDirectories parent) = (false, current, []) := by
            rw [Script.createDirectories, FileTree.run, made]
            rfl
          refine .inr ⟨.notCreated parent, ?_, trivial⟩
          simp only
          rw [run_bind_of_ok (run_lift refused) rfl]
          rfl
      | some after =>
          have done : current.run (Script.createDirectories parent) = (true, after, []) := by
            rw [Script.createDirectories, FileTree.run, made]
            rfl
          exact .inl ⟨after, run_bind_of_ok (run_lift done) rfl, grown.create made⟩

theorem run_writeFile (grown : Grown tree written current) (dest template : Path)
    (file : RenderedFile) :
    (∃ after, current.run (writeFile dest template file).run =
        (.ok (), after, [writingText dest template file]) ∧
      Grown tree (((file.target dest).place, file.body) :: written) after) ∨
    FailsToWrite (current.run (writeFile dest template file).run).1 := by
  rw [writeFile]
  rcases run_createParent grown (file.target dest) with ⟨above, made, ready⟩ | fails
  · cases wrote : above.write? (file.target dest) file.body with
    | none =>
        have refused : above.run (Script.writeText (file.target dest) file.body) =
            (false, above, []) := by
          rw [Script.writeText, FileTree.run, wrote]
          rfl
        refine .inr ⟨.notWritten (file.target dest), ?_, trivial⟩
        rw [run_bind_of_ok made (run_bind_of_ok (run_lift refused) rfl)]
        rfl
    | some after =>
        have done : above.run (Script.writeText (file.target dest) file.body) =
            (true, after, []) := by
          rw [Script.writeText, FileTree.run, wrote]
          rfl
        exact .inl ⟨after, run_bind_of_ok made (run_bind_of_ok (run_lift done) rfl),
          ready.write wrote⟩
  · exact .inr fails.bind

theorem run_writeFiles (grown : Grown tree written current) (dest template : Path)
    (files : List RenderedFile) :
    (∃ after, current.run (files.forM (writeFile dest template)).run =
        (.ok (), after, files.map (writingText dest template)) ∧
      Grown tree ((writes dest files).reverse ++ written) after) ∨
    FailsToWrite (current.run (files.forM (writeFile dest template)).run).1 := by
  induction files generalizing current written with
  | nil => exact .inl ⟨current, rfl, grown⟩
  | cons file files ih =>
      rcases run_writeFile grown dest template file with ⟨middle, first, further⟩ | fails
      · rcases ih further with ⟨after, others, final⟩ | fails
        · refine .inl ⟨after, run_bind_of_ok first others, ?_⟩
          simpa [writes] using final
        · exact .inr (.behind first fails)
      · exact .inr fails.bind

end Command

end Stencil
