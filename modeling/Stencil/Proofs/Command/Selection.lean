import Stencil.Proofs.FileTree.Searches
import Stencil.Proofs.Path.Order

/-!
What a run sets out to do. Putting it together only asks for files, and the templates are the files
that the patterns select, each of them once and in path order.
-/

namespace Stencil.Command

open Script

def Selects (tree : FileTree) (patterns : List String) (path : Path) : Prop :=
  ∃ pattern ∈ patterns, ∃ search, Glob.select? pattern = some search ∧ path ∈ (tree.run search).1

variable {tree : FileTree} {patterns : List String} {path : Path}

theorem Selects.file (selects : Selects tree patterns path) : tree.kind? path = some .file := by
  obtain ⟨pattern, _, search, found, member⟩ := selects
  exact (Glob.select?_spec found).2 tree path member

theorem selects_cons {pattern : String} {search : Script (List Path)}
    (found : Glob.select? pattern = some search) :
    Selects tree (pattern :: patterns) path ↔
      path ∈ (tree.run search).1 ∨ Selects tree patterns path := by
  constructor
  · rintro ⟨own, among, other, selects, member⟩
    rcases List.mem_cons.mp among with rfl | behind
    · rw [found] at selects
      obtain rfl := Option.some.inj selects
      exact .inl member
    · exact .inr ⟨own, behind, other, selects, member⟩
  · rintro (member | ⟨own, behind, other, selects, member⟩)
    · exact ⟨pattern, List.mem_cons_self, search, found, member⟩
    · exact ⟨own, List.mem_cons_of_mem _ behind, other, selects, member⟩

theorem readsOnly_selectSources (patterns : List String) (selected : List Path) :
    ReadsOnly (selectSources patterns selected).run := by
  induction patterns generalizing selected with
  | nil => exact readsOnly_done _
  | cons pattern patterns ih =>
      rw [selectSources]
      split
      · exact readsOnly_done _
      · rename_i search found
        exact (ReadsOnly.attempt_lift (Glob.select?_spec found).1).attempt_bind fun _ => ih _

theorem run_selectSources_cons {pattern : String} {search : Script (List Path)}
    (found : Glob.select? pattern = some search) (selected : List Path) :
    tree.run (selectSources (pattern :: patterns) selected).run =
      tree.run (selectSources patterns ((tree.run search).1.foldl
        (fun selected path => Path.insertOrdered path selected) selected)).run := by
  rw [selectSources, found]
  exact FileTree.run_bind_of_ok (FileTree.run_lift ((Glob.select?_spec found).1.run_eq tree)) rfl

theorem selectSources_spec {selected templates : List Path}
    (ordered : selected.Pairwise Path.Precedes)
    (chosen : (tree.run (selectSources patterns selected).run).1 = .ok templates) :
    templates.Pairwise Path.Precedes ∧ selected ⊆ templates ∧
      (∀ path ∈ templates, path ∈ selected ∨ Selects tree patterns path) ∧
      ∀ path, Selects tree patterns path →
        ∃ template ∈ templates, template.components = path.components := by
  induction patterns generalizing selected with
  | nil =>
      obtain rfl := Except.ok.inj chosen
      refine ⟨ordered, List.Subset.refl _, fun _ => .inl, ?_⟩
      rintro path ⟨pattern, member, _⟩
      exact absurd member List.not_mem_nil
  | cons pattern patterns ih =>
      cases found : Glob.select? pattern with
      | none =>
          rw [selectSources, found] at chosen
          cases chosen
      | some search =>
          rw [run_selectSources_cons found] at chosen
          have added := Path.added_foldl (tree.run search).1 ordered
          obtain ⟨sorted, kept, sound, complete⟩ := ih added.ordered chosen
          refine ⟨sorted, List.Subset.trans added.kept kept, fun path member => ?_,
            fun path selects => ?_⟩
          · rw [selects_cons found]
            rcases sound path member with among | behind
            · rcases added.sound path among with before | listed
              · exact .inl before
              · exact .inr (.inl listed)
            · exact .inr (.inr behind)
          · rcases (selects_cons found).mp selects with listed | behind
            · obtain ⟨template, there, same⟩ := added.complete path listed
              exact ⟨template, kept there, same⟩
            · exact complete path behind

theorem readsOnly_readConfig (path : Path) : ReadsOnly (readConfig path).run := by
  rw [readConfig]
  refine (ReadsOnly.attempt_lift (readsOnly_readText path)).attempt_bind fun text => ?_
  cases text with
  | none => exact readsOnly_done _
  | some text => exact readsOnly_done _

theorem readsOnly_loadConfig (arguments : Arguments) : ReadsOnly (loadConfig arguments).run := by
  rw [loadConfig]
  cases arguments.value? .config with
  | some path => exact (readsOnly_readConfig _).attempt_bind fun config => readsOnly_done _
  | none =>
      refine (ReadsOnly.attempt_lift (readsOnly_kindAt _)).attempt_bind fun kind => ?_
      split
      · exact (readsOnly_readConfig _).attempt_bind fun config => readsOnly_done _
      · exact readsOnly_done _

theorem readsOnly_prepare (arguments : Arguments) : ReadsOnly (prepare arguments).run := by
  rw [prepare]
  refine (readsOnly_loadConfig arguments).attempt_bind fun config => ?_
  refine ReadsOnly.attempt_bind (readsOnly_done _) fun tags => ?_
  refine ReadsOnly.attempt_bind (readsOnly_done _) fun context => ?_
  exact (readsOnly_selectSources config.src []).attempt_bind fun templates => readsOnly_done _

theorem prepare_spec {arguments : Arguments} {task : Task}
    (prepared : (tree.run (prepare arguments).run).1 = .ok task) :
    task.templates.Pairwise Path.Precedes ∧
      (∀ path ∈ task.templates, Selects tree task.config.src path) ∧
      ∀ path, Selects tree task.config.src path →
        ∃ template ∈ task.templates, template.components = path.components := by
  rw [prepare] at prepared
  obtain ⟨config, _, prepared⟩ := (readsOnly_loadConfig arguments).exists_of_ok prepared
  obtain ⟨tags, _, prepared⟩ := ReadsOnly.exists_of_ok (readsOnly_done _) prepared
  obtain ⟨context, _, prepared⟩ := ReadsOnly.exists_of_ok (readsOnly_done _) prepared
  obtain ⟨templates, chosen, made⟩ := (readsOnly_selectSources config.src []).exists_of_ok prepared
  obtain rfl := Except.ok.inj made
  obtain ⟨ordered, _, sound, complete⟩ := selectSources_spec List.Pairwise.nil chosen
  refine ⟨ordered, fun path member => ?_, complete⟩
  rcases sound path member with impossible | selects
  · exact absurd impossible List.not_mem_nil
  · exact selects

end Stencil.Command
