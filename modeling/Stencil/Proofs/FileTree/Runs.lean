import Stencil.Command.Run
import Stencil.FileTree

/-!
Scripts on a tree of files. A script that follows another one runs on the tree that this one leaves;
a script that only asks leaves the tree as it is.
-/

namespace Stencil

variable {α β : Type}

namespace FileTree

theorem run_andThen (tree : FileTree) (script : Script α) (next : α → Script β) :
    tree.run (script.andThen next) =
      (((tree.run script).2.1.run (next (tree.run script).1)).1,
        ((tree.run script).2.1.run (next (tree.run script).1)).2.1,
        (tree.run script).2.2 ++ ((tree.run script).2.1.run (next (tree.run script).1)).2.2) := by
  induction script generalizing tree with
  | done value => rfl
  | read path following ih => exact ih _ tree
  | inspect path following ih => exact ih _ tree
  | list path following ih => exact ih _ tree
  | create path following ih =>
      rw [Script.andThen, run, run]
      cases tree.create? path with
      | none => exact ih false tree
      | some made => exact ih true made
  | write path text following ih =>
      rw [Script.andThen, run, run]
      cases tree.write? path text with
      | none => exact ih false tree
      | some written => exact ih true written
  | log message following ih =>
      rw [Script.andThen, run, run, ih tree]
      rfl

variable {tree later after : FileTree} {messages others : List String}

theorem run_bind {script : Script α} {next : α → Script β} {value : α} {result : β}
    (first : tree.run script = (value, later, messages))
    (second : later.run (next value) = (result, after, others)) :
    tree.run (script >>= next) = (result, after, messages ++ others) := by
  show tree.run (script.andThen next) = _
  rw [run_andThen, first, second]

theorem run_map {script : Script α} (change : α → β) {value : α}
    (first : tree.run script = (value, later, messages)) :
    tree.run (change <$> script) = (change value, later, messages) := by
  have second : later.run (pure (change value)) = (change value, later, []) := rfl
  show tree.run (script >>= fun value => pure (change value)) = _
  rw [run_bind first second, List.append_nil]

section Attempts

variable {attempt : Attempt α} {next : α → Attempt β}

theorem run_bind_of_ok {value : α} {result : Except RunError β}
    (first : tree.run attempt.run = (.ok value, later, messages))
    (second : later.run (next value).run = (result, after, others)) :
    tree.run (attempt >>= next).run = (result, after, messages ++ others) :=
  run_bind first second

theorem run_bind_of_error {error : RunError}
    (first : tree.run attempt.run = (.error error, later, messages)) :
    tree.run (attempt >>= next).run = (.error error, later, messages) := by
  have second : later.run (pure (Except.error error) : Script (Except RunError β)) =
      (.error error, later, []) := rfl
  have whole : tree.run (attempt >>= next).run = (.error error, later, messages ++ []) :=
    run_bind first second
  rw [whole, List.append_nil]

theorem run_lift {script : Script α} {value : α}
    (first : tree.run script = (value, later, messages)) :
    tree.run (liftM script : Attempt α).run = (.ok value, later, messages) :=
  run_map Except.ok first

end Attempts

end FileTree

namespace Script

def ReadsOnly (script : Script α) : Prop := ∀ tree : FileTree, (tree.run script).2 = (tree, [])

theorem readsOnly_done (value : α) : ReadsOnly (.done value) := fun _ => rfl

theorem readsOnly_readText (path : Path) : ReadsOnly (readText path) := fun _ => rfl

theorem readsOnly_kindAt (path : Path) : ReadsOnly (kindAt path) := fun _ => rfl

theorem readsOnly_namesIn (path : Path) : ReadsOnly (namesIn path) := fun _ => rfl

namespace ReadsOnly

theorem run_eq {script : Script α} (reads : ReadsOnly script) (tree : FileTree) :
    tree.run script = ((tree.run script).1, tree, []) :=
  Prod.ext rfl (reads tree)

theorem bind {script : Script α} {next : α → Script β} (first : ReadsOnly script)
    (others : ∀ value, ReadsOnly (next value)) : ReadsOnly (script >>= next) := by
  intro tree
  rw [FileTree.run_bind (first.run_eq tree) ((others _).run_eq tree)]
  rfl

theorem value_bind {script : Script α} (next : α → Script β) (first : ReadsOnly script)
    (tree : FileTree) : (tree.run (script >>= next)).1 = (tree.run (next (tree.run script).1)).1 := by
  rw [FileTree.run_bind (first.run_eq tree) rfl]

theorem map {script : Script α} (change : α → β) (first : ReadsOnly script) :
    ReadsOnly (change <$> script) :=
  first.bind fun value => readsOnly_done (change value)

theorem gather {script : α → Script (List β)} (each : ∀ element, ReadsOnly (script element))
    (elements : List α) : ReadsOnly (Script.gather script elements) := by
  induction elements with
  | nil => exact readsOnly_done []
  | cons element elements ih =>
      exact (each element).bind fun front => ih.bind fun back => readsOnly_done (front ++ back)

section Attempts

theorem attempt_bind {attempt : Attempt α} {next : α → Attempt β} (first : ReadsOnly attempt.run)
    (others : ∀ value, ReadsOnly (next value).run) : ReadsOnly (attempt >>= next).run := by
  refine bind first fun result => ?_
  cases result with
  | error error => exact readsOnly_done _
  | ok value => exact others value

theorem attempt_lift {script : Script α} (first : ReadsOnly script) :
    ReadsOnly (liftM script : Attempt α).run :=
  first.map Except.ok

theorem exists_of_ok {attempt : Attempt α} {next : α → Attempt β} {tree : FileTree} {result : β}
    (first : ReadsOnly attempt.run) (succeeds : (tree.run (attempt >>= next).run).1 = .ok result) :
    ∃ value, (tree.run attempt.run).1 = .ok value ∧ (tree.run (next value).run).1 = .ok result := by
  cases outcome : (tree.run attempt.run).1 with
  | error error =>
      have failed : tree.run attempt.run = (.error error, tree, []) := by
        rw [first.run_eq, outcome]
      rw [FileTree.run_bind_of_error failed] at succeeds
      cases succeeds
  | ok value =>
      have answered : tree.run attempt.run = (.ok value, tree, []) := by
        rw [first.run_eq, outcome]
      rw [FileTree.run_bind_of_ok answered rfl] at succeeds
      exact ⟨value, rfl, succeeds⟩

end Attempts

end ReadsOnly

end Script

end Stencil
