import Stencil.Proofs.FileTree.Runs
import Stencil.Proofs.Includes.Loaders

/-!
Reading included files ahead of rendering. The files that are read level by level answer every include
of the template as the tree itself would, so that rendering may as well have read them when it came to
them.
-/

namespace Stencil

variable {tree : FileTree} {tags : Tags}

namespace ReadFiles

variable {files : ReadFiles} {paths : List Path}

def Knows (files : ReadFiles) (path : Path) : Prop := ∃ answer, files.find? path = some answer

def Faithful (tree : FileTree) (files : ReadFiles) : Prop :=
  ∀ path answer, files.find? path = some answer → answer = tree.read? path

theorem Faithful.load_eq (faithful : Faithful tree files) {path : Path} (known : files.Knows path) :
    files.load path = tree.read? path := by
  obtain ⟨answer, found⟩ := known
  rw [load, found, faithful path answer found]
  rfl

def Pending (tree : FileTree) (tags : Tags) (files : ReadFiles) (next : List Path) : Prop :=
  ∀ path text, files.Knows path → tree.read? path = some text →
    ∀ target ∈ Token.includeTargets tags path.toString text.toList,
      files.Knows target ∨ target ∈ next

theorem find?_cons (path other : Path) (answer : Option String) (files : ReadFiles) :
    ReadFiles.find? ⟨(path, answer) :: files.texts⟩ other =
      if other = path then some answer else files.find? other := by
  rw [find?, List.lookup_cons]
  by_cases same : other = path
  · simp [same]
  · have passed : (other == path) = false := by simpa using same
    rw [passed, if_neg same]
    rfl

theorem Knows.cons {path other : Path} {answer : Option String} (known : files.Knows other) :
    Knows ⟨(path, answer) :: files.texts⟩ other := by
  obtain ⟨own, found⟩ := known
  by_cases same : other = path
  · exact ⟨answer, by rw [find?_cons, if_pos same]⟩
  · exact ⟨own, by rw [find?_cons, if_neg same, found]⟩

theorem Faithful.cons (faithful : Faithful tree files) (path : Path) :
    Faithful tree ⟨(path, tree.read? path) :: files.texts⟩ := by
  intro other answer found
  rw [find?_cons] at found
  by_cases same : other = path
  · rw [if_pos same] at found
    rw [same, ← Option.some.inj found]
  · rw [if_neg same] at found
    exact faithful other answer found

structure Level (tree : FileTree) (tags : Tags) (paths : List Path) (before after : ReadFiles)
    (included : List Path) : Prop where
  faithful : Faithful tree after
  kept : ∀ path, before.Knows path → after.Knows path
  read : ∀ path ∈ paths, after.Knows path
  named : ∀ path text, after.Knows path → ¬ before.Knows path → tree.read? path = some text →
    Token.includeTargets tags path.toString text.toList ⊆ included

theorem exists_level (tags : Tags) (paths : List Path) {files : ReadFiles}
    (faithful : Faithful tree files) :
    ∃ after included, tree.run (readAll tags paths files) = ((after, included), tree, []) ∧
      Level tree tags paths files after included := by
  induction paths generalizing files with
  | nil =>
      refine ⟨files, [], rfl, faithful, fun _ known => known, by simp, ?_⟩
      intro path text known unknown
      exact absurd known unknown
  | cons path paths ih =>
      rw [readAll]
      cases found : files.find? path with
      | some answer =>
          obtain ⟨after, included, ran, level⟩ := ih faithful
          refine ⟨after, included, ran, level.faithful, level.kept, ?_, level.named⟩
          intro other member
          rcases List.mem_cons.mp member with rfl | behind
          · exact level.kept other ⟨answer, found⟩
          · exact level.read other behind
      | none =>
          obtain ⟨after, others, ran, level⟩ := ih (faithful.cons path)
          have asked : tree.run (Script.readText path) = (tree.read? path, tree, []) := rfl
          refine ⟨after, _, FileTree.run_bind asked (FileTree.run_bind ran rfl), level.faithful,
            fun other known => level.kept other known.cons, ?_, ?_⟩
          · intro other member
            rcases List.mem_cons.mp member with rfl | behind
            · exact level.kept other ⟨_, by rw [find?_cons, if_pos rfl]⟩
            · exact level.read other behind
          · intro other text known unknown loaded
            by_cases same : other = path
            · subst same
              simp only [loaded]
              exact List.subset_append_left _ _
            · refine List.Subset.trans (level.named other text known ?_ loaded)
                (List.subset_append_right _ _)
              rintro ⟨answer, already⟩
              rw [find?_cons, if_neg same] at already
              exact unknown ⟨answer, already⟩

theorem Level.pending {after : ReadFiles} {included : List Path}
    (level : Level tree tags paths files after included) (pending : Pending tree tags files paths) :
    Pending tree tags after included := by
  intro path text known loaded target member
  by_cases before : files.Knows path
  · rcases pending path text before loaded target member with there | next
    · exact .inl (level.kept target there)
    · exact .inl (level.read target next)
  · exact .inr (level.named path text known before loaded member)

theorem run_readLevels_nil (levels : Nat) (files : ReadFiles) :
    tree.run (readLevels tags levels [] files) = (files, tree, []) := by
  cases levels <;> rfl

theorem alike_single_succ {load other : Loader} {levels : Nat} {path : Path}
    (same : load path = other path)
    (inside : ∀ text, other path = some text →
      ∀ target ∈ Token.includeTargets tags path.toString text.toList,
        Alike tags load other levels [target]) : Alike tags load other (levels + 1) [path] := by
  intro own member
  obtain rfl := List.mem_singleton.mp member
  exact ⟨same, fun text loaded => .of_each (inside text (same ▸ loaded))⟩

/-- In the end every file to be read is answered as in the tree, with what it includes so many levels
deep, and every file that was known before one level deeper. -/
theorem exists_run_readLevels (levels : Nat) {paths : List Path} {files : ReadFiles}
    (faithful : Faithful tree files) (pending : Pending tree tags files paths) :
    ∃ final, tree.run (readLevels tags levels paths files) = (final, tree, []) ∧
      (∀ path, files.Knows path → Alike tags final.load tree.read? (levels + 1) [path]) ∧
      ∀ path ∈ paths, Alike tags final.load tree.read? levels [path] := by
  induction levels generalizing paths files with
  | zero =>
      refine ⟨files, rfl, fun path known => ?_, fun _ _ => trivial⟩
      exact alike_single_succ (faithful.load_eq known) fun _ _ _ _ => trivial
  | succ levels ih =>
      obtain ⟨after, included, ran, level⟩ := exists_level tags paths faithful
      obtain ⟨final, rest, known, _⟩ := ih level.faithful (level.pending pending)
      have whole : tree.run (readLevels tags (levels + 1) paths files) = (final, tree, []) := by
        rw [readLevels]
        refine FileTree.run_bind ran ?_
        cases included with
        | nil =>
            rw [run_readLevels_nil] at rest
            exact rest
        | cons first included => exact rest
      refine ⟨final, whole, fun path before => ?_,
        fun path member => known path (level.read path member)⟩
      obtain ⟨same, _⟩ := known path (level.kept path before) path List.mem_cons_self
      refine alike_single_succ same fun text loaded target member => ?_
      rcases pending path text before loaded target member with there | next
      · exact known target (level.kept target there)
      · exact known target (level.read target next)

end ReadFiles

namespace Engine

variable {State : Type} {host : Host State} {context : Context} {engine : Engine} {path : Path}
  {source : String}

theorem exists_run_withIncludes (tree : FileTree) (engine : Engine) (path : Path) (source : String) :
    ∃ load, tree.run (engine.withIncludes path source) = ({ engine with load }, tree, []) ∧
      Alike engine.tags load tree.read? maxIncludeDepth (engine.includeTargets path source) := by
  have faithful : ReadFiles.Faithful tree {} := by
    intro path answer found
    cases found
  have pending : ReadFiles.Pending tree engine.tags {} (engine.includeTargets path source) := by
    rintro other text ⟨answer, found⟩
    cases found
  obtain ⟨final, ran, _, alike⟩ := ReadFiles.exists_run_readLevels maxIncludeDepth faithful pending
  exact ⟨final.load, FileTree.run_bind ran rfl, .of_each alike⟩

theorem process_congr {load other : Loader}
    (alike : Alike engine.tags load other maxIncludeDepth (engine.includeTargets path source)) :
    process { engine with load } host context path source =
      process { engine with load := other } host context path source := by
  rw [includeTargets] at alike
  have inSource : Alike engine.tags load other maxIncludeDepth
      (Token.includeTargets engine.tags path.toString source.toList) := by
    cases repeated : engine.repeatFor? path with
    | none => simpa [repeated] using alike
    | some spec =>
        simp only [repeated] at alike
        exact alike.subset (List.subset_append_left _ _)
  rw [process, process, compile, compile, Template.compile_congr inSource]
  cases Template.compile engine.tags other path.toString source with
  | error error => rfl
  | ok template =>
      cases repeated : engine.repeatFor? path with
      | none =>
          have first : repeatFor? { engine with load } path = none := repeated
          have second : repeatFor? { engine with load := other } path = none := repeated
          simp only [first, second]
      | some spec =>
          have first : repeatFor? { engine with load } path = some spec := repeated
          have second : repeatFor? { engine with load := other } path = some spec := repeated
          simp only [repeated] at alike
          simp only [first, second]
          exact RepeatSpec.render_congr (alike.subset (List.subset_append_right _ _))

end Engine

namespace Command

def rendered (tree : FileTree) (engine : Engine) (context : Context) (template : Path) :
    Except RunError (List RenderedFile) :=
  match tree.read? template with
  | none => .error (.unreadable template)
  | some source =>
      ((Engine.process { engine with load := tree.read? } Host.none context template source).run.run
        ()).1.mapError .template

theorem run_renderFiles (tree : FileTree) (engine : Engine) (context : Context) (template : Path) :
    tree.run (renderFiles engine context template).run =
      (rendered tree engine context template, tree, []) := by
  have asked : tree.run (Script.readText template) = (tree.read? template, tree, []) := rfl
  rw [renderFiles, rendered]
  refine FileTree.run_bind_of_ok (FileTree.run_lift asked) ?_
  cases tree.read? template with
  | none => rfl
  | some source =>
      obtain ⟨load, ran, alike⟩ := Engine.exists_run_withIncludes tree engine template source
      refine FileTree.run_bind_of_ok (FileTree.run_lift ran) ?_
      rw [Engine.process_congr alike]
      cases outcome : ((Engine.process { engine with load := tree.read? } Host.none context template
        source).run.run ()).1 with
      | ok files =>
          simp only [outcome]
          rfl
      | error error =>
          simp only [outcome]
          rfl

inductive Included (tree : FileTree) (engine : Engine) (template : Path) : Path → Prop
  | named {source path} : tree.read? template = some source →
      path ∈ engine.includeTargets template source → Included tree engine template path
  | behind {middle text path} : Included tree engine template middle →
      tree.read? middle = some text →
      path ∈ Token.includeTargets engine.tags middle.toString text.toList →
      Included tree engine template path

variable {current : FileTree} {engine : Engine} {context : Context} {template path : Path}

theorem exists_normalize_of_mem_includeTargets {tags : Tags} {file : String} {source : List Char}
    (member : path ∈ Token.includeTargets tags file source) :
    ∃ other : Path, path = other.normalize := by
  obtain ⟨segment, _, named⟩ := List.mem_filterMap.mp member
  split at named
  · exact ⟨_, (Option.some.inj named).symm⟩
  · cases named

theorem Included.exists_normalize (included : Included tree engine template path) :
    ∃ other : Path, path = other.normalize := by
  cases included with
  | named _ member =>
      rw [Engine.includeTargets] at member
      split at member
      · exact exists_normalize_of_mem_includeTargets member
      · rcases List.mem_append.mp member with inSource | inName
        · exact exists_normalize_of_mem_includeTargets inSource
        · exact exists_normalize_of_mem_includeTargets inName
  | behind _ _ member => exact exists_normalize_of_mem_includeTargets member

theorem not_included (nothing : ∀ source, tree.read? template = some source →
      engine.includeTargets template source = []) : ¬ Included tree engine template path := by
  intro included
  induction included with
  | named loaded member =>
      rw [nothing _ loaded] at member
      exact List.not_mem_nil member
  | behind _ _ _ ih => exact ih

theorem Included.alike (same : ∀ path, Included tree engine template path →
      current.read? path = tree.read? path) (included : Included tree engine template path)
    (levels : Nat) : Alike engine.tags current.read? tree.read? levels [path] := by
  induction levels generalizing path with
  | zero => trivial
  | succ levels ih =>
      refine ReadFiles.alike_single_succ (same path included) fun text loaded target member => ?_
      exact ih (included.behind loaded member)

theorem rendered_congr (own : current.read? template = tree.read? template)
    (same : ∀ path, Included tree engine template path → current.read? path = tree.read? path) :
    rendered current engine context template = rendered tree engine context template := by
  rw [rendered, rendered, own]
  cases loaded : tree.read? template with
  | none => rfl
  | some source =>
      have alike : Alike engine.tags current.read? tree.read? maxIncludeDepth
          (engine.includeTargets template source) :=
        .of_each fun _ member => (Included.named loaded member).alike same maxIncludeDepth
      simp only
      rw [Engine.process_congr alike]

end Command

end Stencil
