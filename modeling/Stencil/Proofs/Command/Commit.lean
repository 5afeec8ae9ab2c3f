import Stencil.Proofs.Blocks.Ranges
import Stencil.Proofs.Command.Includes
import Stencil.Proofs.Command.Selection
import Stencil.Proofs.Command.Writing
import Stencil.Proofs.Expr.Names
import Stencil.Proofs.FileTree.Reads
import Stencil.Proofs.Outcome

/-!
Runs write whole templates. The templates are handled in path order, each as if the files were still
those that the run started with; the outputs of a template are written when all of them have been
rendered, and the first template that fails ends the run.
-/

namespace Stencil.Command

open FileTree Script

namespace Task

def rendered (task : Task) (tree : FileTree) (template : Path) :
    Except RunError (List RenderedFile) :=
  Command.rendered tree task.engine task.context template

def Reads (task : Task) (tree : FileTree) (path : Path) : Prop :=
  path ∈ task.templates ∨ ∃ template ∈ task.templates, Included tree task.engine template path

def Outputs (task : Task) (tree : FileTree) (target : Path) : Prop :=
  ∃ before template behind files, task.templates = before ++ template :: behind ∧
    (∀ earlier ∈ before, ∃ files, task.rendered tree earlier = .ok files) ∧
    task.rendered tree template = .ok files ∧ ∃ file ∈ files, file.target task.dest = target

def Apart (task : Task) (tree : FileTree) : Prop :=
  ∀ target path, task.Outputs tree target → task.Reads tree path → target.place ≠ path.place

/-- What the task comes to for some templates: which are rendered into which files, how the run
ends, and what it reports. -/
inductive Handles (task : Task) (tree : FileTree) :
    List Path → List (Path × List RenderedFile) → Except RunError Unit → List String → Prop
  | all : Handles task tree [] [] (.ok ()) []
  | fails {template templates error} : task.rendered tree template = .error error →
      Handles task tree (template :: templates) [] (.error error) [readingText template]
  | next {template templates files handled outcome messages} :
      task.rendered tree template = .ok files →
      Handles task tree templates handled outcome messages →
      Handles task tree (template :: templates) ((template, files) :: handled) outcome
        (reports task.dest (template, files) ++ messages)

def writesOf (task : Task) (handled : List (Path × List RenderedFile)) : List (Place × String) :=
  handled.flatMap fun pair => writes task.dest pair.2

variable {task : Task} {tree current : FileTree} {written : List (Place × String)}
  {template : Path} {templates : List Path}

def Unread (task : Task) (tree : FileTree) (written : List (Place × String)) : Prop :=
  ∀ path, task.Reads tree path → written.lookup path.place = none

theorem Unread.append {files : List RenderedFile} (unread : task.Unread tree written)
    (apart : task.Apart tree) (outputs : ∀ file ∈ files, task.Outputs tree (file.target task.dest)) :
    task.Unread tree ((writes task.dest files).reverse ++ written) := by
  intro path reads
  rw [List.lookup_append, unread path reads, Option.or_none, List.lookup_eq_none_iff]
  intro pair member
  obtain ⟨file, among, rfl⟩ := List.mem_map.mp (List.mem_reverse.mp member)
  have other := apart (file.target task.dest) path (outputs file among) reads
  simpa using other.symm

/-- Templates are rendered as with the files that the run started with. -/
theorem rendered_of_grown (rooted : tree.Rooted)
    (selected : ∀ template ∈ task.templates, tree.kind? template = some .file)
    (grown : Grown tree written current) (unread : task.Unread tree written)
    (member : template ∈ task.templates) :
    task.rendered current template = task.rendered tree template := by
  refine rendered_congr ?_ fun path included => ?_
  · exact grown.read?_of_file (selected template member) (unread template (.inl member))
  · have free := unread path (.inr ⟨template, member, included⟩)
    obtain ⟨other, rfl⟩ := included.exists_normalize
    rw [Path.place_normalize] at free
    exact grown.read?_normalize rooted free

theorem run_compile_of_error {error : RunError}
    (failed : task.rendered current template = .error error) :
    current.run (compileTemplate task.engine task.context task.dest template).run =
      (.error error, current, [readingText template]) := by
  have reported : current.run (Script.report (readingText template)) =
      ((), current, [readingText template]) := rfl
  have stopped := run_renderFiles current task.engine task.context template
  rw [show Command.rendered current task.engine task.context template = _ from failed] at stopped
  rw [compileTemplate]
  exact run_bind_of_ok (run_lift reported) (run_bind_of_error stopped)

theorem run_compile_of_ok {files : List RenderedFile} (grown : Grown tree written current)
    (succeeds : task.rendered current template = .ok files) :
    (∃ after, current.run (compileTemplate task.engine task.context task.dest template).run =
        (.ok (), after, reports task.dest (template, files)) ∧
      Grown tree ((writes task.dest files).reverse ++ written) after) ∨
    FailsToWrite
      (current.run (compileTemplate task.engine task.context task.dest template).run).1 := by
  have reported : current.run (Script.report (readingText template)) =
      ((), current, [readingText template]) := rfl
  have answered := run_renderFiles current task.engine task.context template
  rw [show Command.rendered current task.engine task.context template = _ from succeeds] at answered
  rw [compileTemplate]
  rcases run_writeFiles grown task.dest template files with ⟨after, wrote, final⟩ | fails
  · exact .inl ⟨after, run_bind_of_ok (run_lift reported) (run_bind_of_ok answered wrote), final⟩
  · exact .inr (.behind (run_lift reported) (.behind answered fails))

/-- The templates from some point on are handled as with the files at the start, given that nothing
written before is read. -/
theorem run_templates (rooted : tree.Rooted)
    (selected : ∀ template ∈ task.templates, tree.kind? template = some .file)
    (apart : task.Apart tree) {before : List Path} (split : task.templates = before ++ templates)
    (earlier : ∀ template ∈ before, ∃ files, task.rendered tree template = .ok files)
    (grown : Grown tree written current) (unread : task.Unread tree written) :
    (∃ handled outcome after messages,
      current.run (templates.forM (compileTemplate task.engine task.context task.dest)).run =
        (outcome, after, messages) ∧
      task.Handles tree templates handled outcome messages ∧
      Grown tree ((task.writesOf handled).reverse ++ written) after) ∨
    FailsToWrite
      (current.run (templates.forM (compileTemplate task.engine task.context task.dest)).run).1 := by
  -- What carries the induction is that no file written so far is read by any template.
  induction templates generalizing before current written with
  | nil => exact .inl ⟨[], .ok (), current, [], rfl, .all, grown⟩
  | cons template templates ih =>
      have member : template ∈ task.templates := by simp [split]
      have same := rendered_of_grown rooted selected grown unread member
      cases result : task.rendered tree template with
      | error error =>
          have failed := run_compile_of_error (same.trans result)
          exact .inl ⟨[], .error error, current, _, run_bind_of_error failed, .fails result, grown⟩
      | ok files =>
          rcases run_compile_of_ok grown (same.trans result) with ⟨middle, first, further⟩ | fails
          · have outputs : ∀ file ∈ files, task.Outputs tree (file.target task.dest) :=
              fun file among => ⟨before, template, templates, files, split, earlier, result, file,
                among, rfl⟩
            have done : ∀ other ∈ before ++ [template],
                ∃ files, task.rendered tree other = .ok files := by
              intro other among
              rcases List.mem_append.mp among with old | new
              · exact earlier other old
              · exact List.mem_singleton.mp new ▸ ⟨files, result⟩
            rcases ih (by simp [split]) done further (unread.append apart outputs) with
              ⟨handled, outcome, after, messages, others, handles, final⟩ | fails
            · refine .inl ⟨(template, files) :: handled, outcome, after, _,
                run_bind_of_ok first others, .next result handles, ?_⟩
              simpa [writesOf] using final
            · exact .inr (.behind first fails)
          · exact .inr fails.bind

namespace Handles

variable {handled : List (Path × List RenderedFile)} {outcome : Except RunError Unit}
  {messages : List String}

theorem rendered_eq (handles : task.Handles tree templates handled outcome messages) :
    ∀ pair ∈ handled, task.rendered tree pair.1 = .ok pair.2 := by
  induction handles with
  | all => simp
  | fails _ => simp
  | next result _ ih =>
      intro pair member
      rcases List.mem_cons.mp member with rfl | behind
      · exact result
      · exact ih pair behind

theorem all_or_first_failing (handles : task.Handles tree templates handled outcome messages) :
    (templates = handled.map Prod.fst ∧ outcome = .ok () ∧
      messages = handled.flatMap (reports task.dest)) ∨
    ∃ failing rest error, templates = handled.map Prod.fst ++ failing :: rest ∧
      task.rendered tree failing = .error error ∧ outcome = .error error ∧
      messages = handled.flatMap (reports task.dest) ++ [readingText failing] := by
  induction handles with
  | all => exact .inl ⟨rfl, rfl, rfl⟩
  | fails failed => exact .inr ⟨_, _, _, rfl, failed, rfl, rfl⟩
  | next result _ ih =>
      rcases ih with ⟨rfl, rfl, rfl⟩ | ⟨failing, rest, error, rfl, failed, rfl, rfl⟩
      · exact .inl ⟨rfl, rfl, rfl⟩
      · refine .inr ⟨failing, rest, error, rfl, failed, rfl, ?_⟩
        rw [List.flatMap_cons, List.append_assoc]

end Handles

end Task

/-- Unless something cannot be written, a run whose outputs are none of the files that it reads handles
its templates in path order and once each, with the files as they were at its start. It ends with the
error of the first template that fails. Exactly the outputs of the templates before that one are
written, so that each place holds the text that was written to it last, and no other file changes. -/
theorem run_commits_whole_templates {tree : FileTree} (rooted : tree.Rooted) {arguments : Arguments}
    {task : Task} (prepared : (tree.run (Command.prepare arguments).run).1 = .ok task)
    (apart : task.Apart tree)
    (written : ¬ FailsToWrite (tree.run (Command.run arguments).run).1) :
    (task.templates.Pairwise Path.Precedes ∧ (task.templates.map Path.components).Nodup ∧
      (∀ path ∈ task.templates, Selects tree task.config.src path) ∧
      ∀ path, Selects tree task.config.src path →
        ∃ template ∈ task.templates, template.components = path.components) ∧
    ∃ (handled : List (Path × List RenderedFile)) (outcome : Except RunError Unit)
        (after : FileTree) (messages : List String),
      tree.run (Command.run arguments).run = (outcome, after, messages) ∧
      (∀ pair ∈ handled, task.rendered tree pair.1 = .ok pair.2) ∧
      (task.templates = handled.map Prod.fst ∧ outcome = .ok () ∧
          messages = handled.flatMap (reports task.dest) ∨
        ∃ failing rest error, task.templates = handled.map Prod.fst ++ failing :: rest ∧
          task.rendered tree failing = .error error ∧ outcome = .error error ∧
          messages = handled.flatMap (reports task.dest) ++ [readingText failing]) ∧
      (∀ place body, (task.writesOf handled).reverse.lookup place = some body →
        after.entry? place = some (.text body)) ∧
      ∀ place, (task.writesOf handled).reverse.lookup place = none →
        after.entry? place = tree.entry? place ∨
          tree.entry? place = none ∧ after.entry? place = some .directory := by
  obtain ⟨ordered, sound, complete⟩ := prepare_spec prepared
  have selected : ∀ template ∈ task.templates, tree.kind? template = some .file :=
    fun template member => (sound template member).file
  have unread : task.Unread tree [] := fun _ _ => rfl
  have ready : tree.run (Command.prepare arguments).run = (.ok task, tree, []) := by
    rw [(readsOnly_prepare arguments).run_eq, prepared]
  refine ⟨⟨ordered, Path.nodup_components ordered, sound, complete⟩, ?_⟩
  rcases Task.run_templates rooted selected apart (List.nil_append _).symm (by simp)
    (Grown.self tree) unread with ⟨handled, outcome, after, messages, ran, handles, grown⟩ | fails
  · rw [List.append_nil] at grown
    refine ⟨handled, outcome, after, messages, ?_, handles.rendered_eq,
      handles.all_or_first_failing, grown.texts, grown.others⟩
    rw [Command.run, run_bind_of_ok ready ran]
    rfl
  · exact absurd (FailsToWrite.behind ready fails) written

def twoTemplates : FileTree :=
  ⟨[([.name ['a', '.', 'g', 'e', 'l']], .text "one"),
    ([.name ['b', '.', 'g', 'e', 'l']], .text "[[ y ]]")]⟩

def twoTemplatesTask : Task :=
  ⟨{ src := ["b.gel", "*.gel"] }, default, {}, [.ofString "a.gel", .ofString "b.gel"]⟩

theorem rooted_twoTemplates : twoTemplates.Rooted := by
  intro component above there
  by_cases fixed : isFixed above = true
  · exact entry?_of_fixed fixed
  · exfalso
    cases above with
    | nil => exact fixed rfl
    | cons next above =>
        have loose : isFixed (component :: next :: above) = false := by
          simp [isFixed] at fixed ⊢
          exact fun _ up => fixed.1 up
        apply there
        rw [FileTree.entry?, loose]
        simp [twoTemplates, List.lookup_cons]

theorem read?_twoTemplates :
    twoTemplates.read? (.ofString "a.gel") = some "one" ∧
    twoTemplates.read? (.ofString "b.gel") = some "[[ y ]]" := by decide +kernel

theorem includeTargets_twoTemplates {path : Path} {text : String}
    (member : path ∈ twoTemplatesTask.templates) (loaded : twoTemplates.read? path = some text) :
    twoTemplatesTask.engine.includeTargets path text = [] := by
  rcases List.mem_cons.mp member with rfl | last
  · obtain rfl := Option.some.inj (read?_twoTemplates.1.symm.trans loaded)
    decide +kernel
  · obtain rfl := List.mem_singleton.mp last
    obtain rfl := Option.some.inj (read?_twoTemplates.2.symm.trans loaded)
    decide +kernel

theorem reads_twoTemplates {path : Path} (reads : twoTemplatesTask.Reads twoTemplates path) :
    path ∈ twoTemplatesTask.templates := by
  rcases reads with member | ⟨template, member, included⟩
  · exact member
  · exact absurd included (not_included fun _ => includeTargets_twoTemplates member)

theorem rendered_twoTemplates :
    twoTemplatesTask.rendered twoTemplates (.ofString "a.gel") =
      .ok [⟨.ofString "a.gel", "one"⟩] ∧
    twoTemplatesTask.rendered twoTemplates (.ofString "b.gel") =
      .error (.template (.render ⟨.unbound "y", ⟨"b.gel", 1, 1, "[[ y ]]"⟩⟩)) := by
  constructor
  · have scanned : Token.scan twoTemplatesTask.engine.tags twoTemplates.read?
        (Path.ofString "a.gel").toString "one" =
          .ok [⟨.plain, some "one", ⟨"a.gel", 1, 1, "one"⟩⟩] :=
      Outcome.eq_ok_of_toOption (by decide +kernel)
    rw [Task.rendered, Command.rendered, read?_twoTemplates.1]
    simp only
    rw [Engine.process, Engine.compile, Template.compile, scanned]
    simp only [Node.parse_eq_ofTokens, Node.ofTokens_plain, Node.ofTokens_nil]
    rfl
  · have scanned : Token.scan twoTemplatesTask.engine.tags twoTemplates.read?
        (Path.ofString "b.gel").toString "[[ y ]]" =
          .ok [⟨.expression, some "y", ⟨"b.gel", 1, 1, "[[ y ]]"⟩⟩] :=
      Outcome.eq_ok_of_toOption (by decide +kernel)
    have read : Expr.compile "y" = .ok (.var "y") :=
      Expr.compile_name (by decide) (by decide)
    rw [Task.rendered, Command.rendered, read?_twoTemplates.2]
    simp only
    rw [Engine.process, Engine.compile, Template.compile, scanned]
    simp only [Node.parse_eq_ofTokens, Node.ofTokens_output, Node.ofTokens_nil, Token.text,
      Option.getD_some, Expression.ofSource_eq read]
    rfl

theorem selects_twoTemplates :
    twoTemplates.run (selectSources ["b.gel", "*.gel"] []).run =
      (.ok [.ofString "a.gel", .ofString "b.gel"], twoTemplates, []) := by
  have spelt : Glob.steps? "b.gel".toList =
      some [[.literal 'b', .literal '.', .literal 'g', .literal 'e', .literal 'l']] := by
    decide +kernel
  have starred : Glob.steps? "*.gel".toList =
      some [[.anyRun, .literal '.', .literal 'g', .literal 'e', .literal 'l']] := by
    decide +kernel
  have leads : (twoTemplates.run (Glob.leadsOn ⟨['.']⟩ ['b', '.', 'g', 'e', 'l'])).1 = true := by
    decide +kernel
  have names : (twoTemplates.names ⟨['.']⟩).mergeSort (fun left right => decide (left ≤ right)) =
      ["a.gel", "b.gel"] := List.mergeSort_of_pairwise (by decide +kernel)
  have matching : twoTemplates.run (Glob.search Glob.deepest
      [[.anyRun, .literal '.', .literal 'g', .literal 'e', .literal 'l']] ⟨['.']⟩) =
        ([.ofString "a.gel", .ofString "b.gel"], twoTemplates, []) := by
    rw [Glob.run_search_matching rfl rfl rfl rfl, names]
    exact Prod.ext (by decide +kernel) rfl
  obtain ⟨one, first, onlyB⟩ := Glob.exists_select?_of_search spelt (by decide +kernel)
    (by decide +kernel) (Glob.run_search_spelt rfl leads)
  obtain ⟨all, second, both⟩ := Glob.exists_select?_of_search starred (by decide +kernel)
    (by decide +kernel) matching
  rw [run_selectSources_cons first, run_selectSources_cons second, onlyB, both]
  rfl

theorem prepared_twoTemplates :
    twoTemplates.run (prepare { patterns := ["b.gel", "*.gel"] }).run =
      (.ok twoTemplatesTask, twoTemplates, []) := by
  have config : twoTemplates.run (loadConfig { patterns := ["b.gel", "*.gel"] }).run =
      (.ok { src := ["b.gel", "*.gel"] }, twoTemplates, []) := rfl
  have tags : twoTemplates.run (orConfigError (RunConfig.toTags {})).run =
      (.ok default, twoTemplates, []) := rfl
  have context : twoTemplates.run (ExceptT.mk (pure (buildContext { patterns := ["b.gel", "*.gel"] }
      { src := ["b.gel", "*.gel"] })) : Attempt Context).run = (.ok {}, twoTemplates, []) := rfl
  rw [prepare]
  exact run_bind_of_ok config
    (run_bind_of_ok tags (run_bind_of_ok context (run_bind_of_ok selects_twoTemplates rfl)))

theorem apart_twoTemplates : twoTemplatesTask.Apart twoTemplates := by
  rintro target path ⟨before, template, behind, files, split, earlier, result, file, member, rfl⟩ reads
  cases before with
  | nil =>
      obtain ⟨rfl, _⟩ := List.cons.inj split
      rw [rendered_twoTemplates.1] at result
      obtain rfl := Except.ok.inj result
      obtain rfl := List.mem_singleton.mp member
      rcases List.mem_cons.mp (reads_twoTemplates reads) with rfl | last
      · decide
      · obtain rfl := List.mem_singleton.mp last
        decide
  | cons first before =>
      obtain ⟨rfl, rest⟩ := List.cons.inj split
      cases before with
      | nil =>
          obtain ⟨rfl, _⟩ := List.cons.inj rest
          rw [rendered_twoTemplates.2] at result
          cases result
      | cons second before => simp at rest

theorem fails_twoTemplates :
    (twoTemplates.run (Command.run { patterns := ["b.gel", "*.gel"] }).run).1 =
      .error (.template (.render ⟨.unbound "y", ⟨"b.gel", 1, 1, "[[ y ]]"⟩⟩)) := by
  obtain ⟨after, wrote, kept⟩ : ∃ after, twoTemplates.run
      ([⟨.ofString "a.gel", "one"⟩].forM (writeFile twoTemplatesTask.dest (.ofString "a.gel"))).run =
        (.ok (), after, ["Done writing a.gel -> build/a"]) ∧
      after.read? (.ofString "b.gel") = twoTemplates.read? (.ofString "b.gel") := ⟨_, rfl, rfl⟩
  have answered := run_renderFiles twoTemplates twoTemplatesTask.engine twoTemplatesTask.context
    (.ofString "a.gel")
  rw [show Command.rendered _ _ _ _ = _ from rendered_twoTemplates.1] at answered
  have first : twoTemplates.run (compileTemplate twoTemplatesTask.engine twoTemplatesTask.context
      twoTemplatesTask.dest (.ofString "a.gel")).run =
        (.ok (), after, ["Reading a.gel", "Done writing a.gel -> build/a"]) :=
    run_bind_of_ok (run_lift rfl) (run_bind_of_ok answered wrote)
  have second : twoTemplatesTask.rendered after (.ofString "b.gel") = _ :=
    (rendered_congr kept fun path included => absurd included
      (not_included fun _ => includeTargets_twoTemplates (by simp [twoTemplatesTask]))).trans
      rendered_twoTemplates.2
  rw [Command.run, run_bind_of_ok prepared_twoTemplates
    (run_bind_of_ok first (run_bind_of_error (Task.run_compile_of_error second)))]

/-- The first template is written, and the second one, which uses a name that is not bound, is not. -/
theorem run_commits_first_of_two_templates :
    ∃ outcome after messages,
      twoTemplates.run (Command.run { patterns := ["b.gel", "*.gel"] }).run =
        (outcome, after, messages) ∧
      after.entry? (Path.ofString "build/a").place = some (.text "one") ∧
      messages = ["Reading a.gel", "Done writing a.gel -> build/a", "Reading b.gel"] := by
  have prepared : (twoTemplates.run (prepare { patterns := ["b.gel", "*.gel"] }).run).1 =
      .ok twoTemplatesTask := by
    rw [prepared_twoTemplates]
  have written : ¬ FailsToWrite
      (twoTemplates.run (Command.run { patterns := ["b.gel", "*.gel"] }).run).1 := by
    rintro ⟨error, same, own⟩
    rw [fails_twoTemplates] at same
    obtain rfl := Except.error.inj same
    exact own
  obtain ⟨_, handled, outcome, after, messages, ran, rendered, ends, texts, _⟩ :=
    run_commits_whole_templates rooted_twoTemplates prepared apart_twoTemplates written
  refine ⟨outcome, after, messages, ran, ?_⟩
  have failed := fails_twoTemplates
  rw [ran] at failed
  rcases ends with ⟨_, rfl, _⟩ | ⟨failing, rest, error, split, stops, _, said⟩
  · cases failed
  · cases handled with
    | nil =>
        obtain ⟨rfl, _⟩ := List.cons.inj split
        rw [rendered_twoTemplates.1] at stops
        cases stops
    | cons pair handled =>
        obtain ⟨template, files⟩ := pair
        obtain ⟨rfl, others⟩ := List.cons.inj split
        have own := rendered _ List.mem_cons_self
        rw [rendered_twoTemplates.1] at own
        obtain rfl := Except.ok.inj own
        cases handled with
        | nil =>
            obtain ⟨rfl, _⟩ := List.cons.inj others
            exact ⟨texts _ _ (by decide), said⟩
        | cons next handled => simp at others

end Stencil.Command
