import Stencil.Command.Output
import Stencil.Proofs.Path.Parts

/-!
Where output goes. A rendered file keeps the names in its path, and its text loses the ending of a
template's name once. What is left is a path of names again, below the directory for the output,
unless the last name is nothing but the ending behind one or two dots.
-/

namespace Stencil.Path

theorem ordinary_of_mem_names {path : Path} {text : List Char} (member : text ∈ path.names) :
    Ordinary text := by
  obtain ⟨component, among, found⟩ := List.mem_filterMap.mp member
  cases component with
  | name other =>
      cases found
      exact ordinary_of_mem_components among
  | root => cases found
  | here => cases found
  | up => cases found

theorem dropTemplateSuffix_append (before : List Char) :
    dropTemplateSuffix (before ++ templateSuffix) = before := by
  have ends : templateSuffix.isSuffixOf (before ++ templateSuffix) = true :=
    List.isSuffixOf_iff_suffix.mpr (List.suffix_append before templateSuffix)
  rw [dropTemplateSuffix, if_pos ends, List.length_append, Nat.add_sub_cancel,
    List.take_left]

theorem dropTemplateSuffix_of_not {text : List Char} (free : ¬ templateSuffix <:+ text) :
    dropTemplateSuffix text = text := by
  rw [dropTemplateSuffix, if_neg]
  simpa using free

/-- The ending has no slash, so that it cannot reach over the last one. -/
theorem suffix_behind_slash_iff (front last : List Char) :
    templateSuffix <:+ front ++ '/' :: last ↔ templateSuffix <:+ last := by
  have whole : '/' :: last <:+ front ++ '/' :: last := List.suffix_append front _
  constructor
  · intro ends
    by_cases short : last.length < templateSuffix.length
    · have inside : '/' :: last <:+ templateSuffix :=
        List.suffix_of_suffix_length_le whole ends (by rw [List.length_cons]; omega)
      have slash : '/' ∈ templateSuffix := inside.subset List.mem_cons_self
      exact absurd slash (by decide)
    · have behind : last <:+ front ++ '/' :: last := (List.suffix_cons '/' last).trans whole
      exact List.suffix_of_suffix_length_le ends behind (by omega)
  · intro ends
    exact (ends.trans (List.suffix_cons '/' last)).trans whole

theorem dropTemplateSuffix_behind_slash (front last : List Char) :
    dropTemplateSuffix (front ++ '/' :: last) = front ++ '/' :: dropTemplateSuffix last := by
  by_cases ends : templateSuffix <:+ last
  · obtain ⟨before, rfl⟩ := ends
    have whole : front ++ '/' :: (before ++ templateSuffix) =
        (front ++ '/' :: before) ++ templateSuffix := by simp
    rw [whole, dropTemplateSuffix_append, dropTemplateSuffix_append]
  · have free : ¬ templateSuffix <:+ front ++ '/' :: last := by
      rwa [suffix_behind_slash_iff]
    rw [dropTemplateSuffix_of_not free, dropTemplateSuffix_of_not ends]

theorem dropTemplateSuffix_cuts (text : List Char) : dropTemplateSuffix text <+: text := by
  by_cases ends : templateSuffix <:+ text
  · obtain ⟨before, rfl⟩ := ends
    rw [dropTemplateSuffix_append]
    exact List.prefix_append before templateSuffix
  · exact ⟨[], by rw [dropTemplateSuffix_of_not ends, List.append_nil]⟩

theorem dropTemplateSuffix_concat (parts : List (List Char)) (last : List Char) :
    dropTemplateSuffix (joinSlashes (parts ++ [last])) =
      joinSlashes (parts ++ [dropTemplateSuffix last]) := by
  by_cases single : parts = []
  · rw [single]
    rfl
  · rw [joinSlashes_concat last single, joinSlashes_concat _ single,
      dropTemplateSuffix_behind_slash]

def Named (path : Path) : Prop := ∀ component ∈ path.components, ∃ text, component = .name text

def Inside (directory path : Path) : Prop :=
  ∃ below : List (List Char),
    resolve path.components = resolve directory.components ++ below.map .name

theorem foldl_resolveStep_names (names : List (List Char)) (stack : List Component) :
    (names.map .name).foldl resolveStep stack = (names.map .name).reverse ++ stack := by
  induction names generalizing stack with
  | nil => rfl
  | cons name names ih => simp [resolveStep, ih]

theorem resolve_append_names (components : List Component) (names : List (List Char)) :
    resolve (components ++ names.map .name) = resolve components ++ names.map .name := by
  rw [resolve, resolve, List.foldl_append, foldl_resolveStep_names, List.reverse_append,
    List.reverse_reverse]

theorem Named.isAbsolute {path : Path} (named : path.Named) : path.isAbsolute = false := by
  cases absolute : path.isAbsolute with
  | false => rfl
  | true =>
      obtain ⟨text, same⟩ := named .root (by simp [components, absolute])
      cases same

theorem Named.startsHere {path : Path} (named : path.Named) : path.startsHere = false := by
  cases here : path.startsHere with
  | false => rfl
  | true =>
      obtain ⟨text, same⟩ := named .here (by simp [components, named.isAbsolute, here])
      cases same

theorem Named.exists_names {path : Path} (named : path.Named) :
    ∃ names : List (List Char), path.components = names.map .name := by
  have all (components : List Component)
      (named : ∀ component ∈ components, ∃ text, component = .name text) :
      ∃ names : List (List Char), components = names.map .name := by
    induction components with
    | nil => exact ⟨[], rfl⟩
    | cons component components ih =>
        obtain ⟨text, rfl⟩ := named component List.mem_cons_self
        obtain ⟨names, rfl⟩ := ih fun other member => named other (List.mem_cons_of_mem _ member)
        exact ⟨text :: names, rfl⟩
  exact all path.components named

theorem Named.inside_join {path : Path} (named : path.Named) (base : Path) :
    Inside base (base.join path) := by
  obtain ⟨names, same⟩ := named.exists_names
  refine ⟨names, ?_⟩
  rw [components_join base named.isAbsolute named.startsHere, same, resolve_append_names]

section Names

variable {path : Path} {front : List (List Char)} {last : List Char}
  (names : path.names = front ++ [last])

include names

theorem ordinary_front : ∀ part ∈ front, Ordinary part := by
  intro part member
  have among : part ∈ path.names := by simp [names, member]
  exact ordinary_of_mem_names among

theorem ordinary_last : Ordinary last := by
  have among : last ∈ path.names := by simp [names]
  exact ordinary_of_mem_names among

theorem output_eq : path.output = ⟨joinSlashes (front ++ [dropTemplateSuffix last])⟩ := by
  rw [output, names, dropTemplateSuffix_concat]

theorem splitSlashes_output :
    splitSlashes path.output.chars = front ++ [dropTemplateSuffix last] := by
  have solid : '/' ∉ dropTemplateSuffix last := fun slash =>
    (ordinary_last names).solid ((dropTemplateSuffix_cuts last).subset slash)
  rw [output_eq names]
  apply splitSlashes_joinSlashes (by simp)
  intro part member
  rcases List.mem_append.mp member with before | final
  · exact (ordinary_front names part before).solid
  · obtain rfl := List.mem_singleton.mp final
    exact solid

theorem isAbsolute_output : path.output.isAbsolute = false := by
  have split := splitSlashes_output names
  rw [isAbsolute]
  cases text : path.output.chars with
  | nil => rfl
  | cons character rest =>
      by_cases slash : character = '/'
      · rw [text, slash, splitSlashes] at split
        cases front with
        | nil => exact absurd (List.cons.inj split).2 (splitSlashes_ne_nil rest)
        | cons part parts =>
            have empty := (List.cons.inj split).1
            exact absurd empty.symm (ordinary_front names part List.mem_cons_self).filled
      · simpa using slash

theorem components_output :
    path.output.components =
      if front = [] ∧ dropTemplateSuffix last = ['.'] then [.here]
      else front.map .name ++ componentsOf [dropTemplateSuffix last] := by
  have inner : componentsOf (front ++ [dropTemplateSuffix last]) =
      front.map .name ++ componentsOf [dropTemplateSuffix last] := by
    rw [componentsOf_append, componentsOf_ordinary (ordinary_front names)]
  rw [components, startsHere, isAbsolute_output names, splitSlashes_output names, inner]
  cases front with
  | nil =>
      by_cases dot : dropTemplateSuffix last = ['.']
      · simp [dot, componentsOf, isEmptyPart]
      · simp [dot]
  | cons part parts =>
      have notHere := (ordinary_front names part List.mem_cons_self).notHere
      simp [notHere]

/-- The ending leaves a text that names nothing only if it stood right behind that text. -/
theorem dropTemplateSuffix_eq_iff {stem : List Char} (odd : ¬ Ordinary stem) :
    dropTemplateSuffix last = stem ↔ last = stem ++ templateSuffix := by
  constructor
  · intro dropped
    by_cases ends : templateSuffix <:+ last
    · obtain ⟨before, rfl⟩ := ends
      rw [dropTemplateSuffix_append] at dropped
      rw [dropped]
    · rw [dropTemplateSuffix_of_not ends] at dropped
      exact absurd (dropped ▸ ordinary_last names) odd
  · rintro rfl
    exact dropTemplateSuffix_append stem

theorem named_output_iff :
    path.output.Named ↔
      dropTemplateSuffix last ≠ ['.', '.'] ∧ (front = [] → dropTemplateSuffix last ≠ ['.']) := by
  have behind : ∀ component ∈ front.map Component.name, ∃ text, component = .name text := by
    intro component member
    obtain ⟨text, _, same⟩ := List.mem_map.mp member
    exact ⟨text, same.symm⟩
  rw [Named, components_output names]
  by_cases here : front = [] ∧ dropTemplateSuffix last = ['.']
  · simp [here]
  · rw [if_neg here]
    by_cases up : dropTemplateSuffix last = ['.', '.']
    · have escapes : componentsOf [dropTemplateSuffix last] = [.up] := by rw [up]; rfl
      constructor
      · intro named
        obtain ⟨text, same⟩ := named .up (by simp [escapes])
        cases same
      · intro free
        exact absurd up free.1
    · constructor
      · intro _
        exact ⟨up, fun single dot => here ⟨single, dot⟩⟩
      · intro _ component member
        rw [componentsOf_singleton, if_neg up] at member
        rcases List.mem_append.mp member with before | final
        · exact behind component before
        · split at final
          · cases final
          · exact ⟨_, List.mem_singleton.mp final⟩

end Names

/-- What a file's text loses is the ending of a template's name and nothing else. What is left is a
path of names, and the file goes below the directory for the output, except where the last name is
the ending behind two dots, or the only name is the ending behind one dot. -/
theorem output_named_iff_names (path : Path) :
    (joinSlashes path.names = path.output.chars ++ templateSuffix ∨
      ¬ templateSuffix <:+ joinSlashes path.names ∧
        path.output.chars = joinSlashes path.names) ∧
    (path.output.Named ↔
      path.names.getLast? ≠ some (['.', '.'] ++ templateSuffix) ∧
        path.names ≠ [['.'] ++ templateSuffix]) ∧
    (∀ front last, path.names = front ++ [last] → Ordinary (dropTemplateSuffix last) →
      path.output.components = (front ++ [dropTemplateSuffix last]).map .name) ∧
    (path.output.Named → ∀ dest body, Inside dest (RenderedFile.target dest ⟨path, body⟩)) := by
  refine ⟨?_, ?_, ?_, ?_⟩
  · by_cases ends : templateSuffix <:+ joinSlashes path.names
    · obtain ⟨before, same⟩ := ends
      rw [output, ← same, dropTemplateSuffix_append]
      exact .inl rfl
    · rw [output, dropTemplateSuffix_of_not ends]
      exact .inr ⟨ends, rfl⟩
  · by_cases empty : path.names = []
    · have nothing : path.output = ⟨[]⟩ := by rw [output, empty]; rfl
      rw [nothing, empty]
      constructor
      · intro _
        exact ⟨by simp, by simp⟩
      · intro _ component member
        cases member
    · obtain ⟨front, last, names⟩ : ∃ front last, path.names = front ++ [last] :=
        ⟨_, _, (List.dropLast_concat_getLast empty).symm⟩
      have up : dropTemplateSuffix last = ['.', '.'] ↔ last = ['.', '.'] ++ templateSuffix :=
        dropTemplateSuffix_eq_iff names fun named => named.notUp rfl
      have here : dropTemplateSuffix last = ['.'] ↔ last = ['.'] ++ templateSuffix :=
        dropTemplateSuffix_eq_iff names fun named => named.notHere rfl
      have single : front ++ [last] = [['.'] ++ templateSuffix] ↔
          front = [] ∧ last = ['.'] ++ templateSuffix := by
        cases front <;> simp
      rw [named_output_iff names, names, List.getLast?_concat, Ne, Ne, Ne, Ne, up, here, single,
        Option.some.injEq, not_and]
  · intro front last names ordinary
    have named : ∀ part ∈ front ++ [dropTemplateSuffix last], Ordinary part := by
      intro part member
      rcases List.mem_append.mp member with before | final
      · exact ordinary_front names part before
      · exact List.mem_singleton.mp final ▸ ordinary
    rw [components_output names, if_neg fun here => ordinary.notHere here.2,
      ← componentsOf_ordinary named, componentsOf_append,
      componentsOf_ordinary (ordinary_front names)]
  · intro named dest body
    exact named.inside_join dest

/-- The ending behind two dots leaves the way up, out of the directory for the output. -/
theorem output_of_dots_not_inside :
    (ofString "...gel").output.components = [.up] ∧
      ¬ Inside (ofString "build")
        (RenderedFile.target (ofString "build") ⟨ofString "...gel", ""⟩) := by
  have target : resolve
      (RenderedFile.target (ofString "build") ⟨ofString "...gel", ""⟩).components = [] := by
    decide
  have directory : resolve (ofString "build").components = [.name "build".toList] := by decide
  refine ⟨by decide, ?_⟩
  rintro ⟨below, inside⟩
  rw [target, directory] at inside
  cases inside

end Stencil.Path
