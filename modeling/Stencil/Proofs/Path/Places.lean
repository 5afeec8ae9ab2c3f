import Stencil.FileTree
import Stencil.Proofs.Path.Parts

/-!
The place that a path leads to. A normalized path spells out its place, component by component, so
that following it never goes back.
-/

namespace Stencil.Path

def place (path : Path) : Place := path.components.foldl resolveStep []

def Settled : Place → Prop
  | [] => True
  | component :: above => resolveStep above component = component :: above ∧ Settled above

theorem settled_resolveStep {above : Place} (settled : Settled above) (component : Component) :
    Settled (resolveStep above component) := by
  cases component with
  | root => exact ⟨rfl, settled⟩
  | here => exact settled
  | name text => exact ⟨rfl, settled⟩
  | up =>
      cases above with
      | nil => exact ⟨rfl, trivial⟩
      | cons last above =>
          cases last with
          | name text => exact settled.2
          | root => exact settled
          | here => exact ⟨rfl, settled⟩
          | up => exact ⟨rfl, settled⟩

theorem settled_place (path : Path) : Settled path.place := by
  have along (components : List Component) (start : Place) (settled : Settled start) :
      Settled (components.foldl resolveStep start) := by
    induction components generalizing start with
    | nil => exact settled
    | cons component components ih => exact ih _ (settled_resolveStep settled component)
  exact along path.components [] trivial

theorem Settled.foldl_reverse {place : Place} (settled : Settled place) :
    place.reverse.foldl resolveStep [] = place := by
  induction place with
  | nil => rfl
  | cons component above ih =>
      rw [List.reverse_cons, List.foldl_append, ih settled.2]
      exact settled.1

def Component.Plain : Component → Prop
  | .up => True
  | .name text => Ordinary text
  | _ => False

theorem plain_of_mem_componentsOf {path : Path} {component : Component}
    (member : component ∈ componentsOf (splitSlashes path.chars)) : component.Plain := by
  cases component with
  | up => trivial
  | name text => exact ordinary_of_mem_componentsOf member
  | root =>
      obtain ⟨part, _, same⟩ := List.mem_map.mp member
      split at same <;> cases same
  | here =>
      obtain ⟨part, _, same⟩ := List.mem_map.mp member
      split at same <;> cases same

namespace Component.Plain

variable {component : Component}

theorem solid (plain : component.Plain) : '/' ∉ component.text := by
  cases component with
  | up => simp [text]
  | name text => exact Ordinary.solid plain
  | root => exact plain.elim
  | here => exact plain.elim

theorem counts (plain : component.Plain) : isEmptyPart component.text = false := by
  cases component with
  | up => rfl
  | name text =>
      have filled := Ordinary.filled plain
      have notHere := Ordinary.notHere plain
      simp [isEmptyPart, Component.text, filled, notHere]
  | root => exact plain.elim
  | here => exact plain.elim

theorem componentsOf_text (plain : component.Plain) : componentsOf [component.text] = [component] := by
  rw [componentsOf_singleton, plain.counts]
  cases component with
  | up => rfl
  | name text => simp [Component.text, Ordinary.notUp plain]
  | root => exact plain.elim
  | here => exact plain.elim

end Component.Plain

section Plain

variable {components : List Component} (plain : ∀ component ∈ components, component.Plain)

include plain

theorem componentsOf_texts : componentsOf (components.map Component.text) = components := by
  induction components with
  | nil => rfl
  | cons component components ih =>
      have first := (plain component List.mem_cons_self).componentsOf_text
      have others := ih fun other member => plain other (List.mem_cons_of_mem _ member)
      rw [List.map_cons, ← List.singleton_append, componentsOf_append, first, others]
      rfl

theorem componentsOf_splitSlashes_texts :
    componentsOf (splitSlashes (joinSlashes (components.map Component.text))) = components := by
  by_cases empty : components = []
  · subst empty
    rfl
  · have solid : ∀ part ∈ components.map Component.text, '/' ∉ part := by
      intro part member
      obtain ⟨component, among, rfl⟩ := List.mem_map.mp member
      exact (plain component among).solid
    rw [splitSlashes_joinSlashes (by simpa using empty) solid, componentsOf_texts plain]

theorem components_ofComponents_absolute : (ofComponents (.root :: components)).components =
    .root :: components := by
  have inner : componentsOf (splitSlashes ('/' :: joinSlashes (components.map Component.text))) =
      components := by
    rw [splitSlashes, ← List.singleton_append, componentsOf_append, componentsOf_singleton,
      componentsOf_splitSlashes_texts plain]
    rfl
  rw [ofComponents, Path.components, inner]
  rfl

theorem components_ofComponents_relative : (ofComponents components).components = components := by
  have text : ofComponents components = ⟨joinSlashes (components.map Component.text)⟩ := by
    cases components with
    | nil => rfl
    | cons component components =>
        have first := plain component List.mem_cons_self
        cases component with
        | root => exact first.elim
        | here => exact first.elim
        | up => rfl
        | name text => rfl
  cases components with
  | nil => rfl
  | cons component components =>
      have first := plain component List.mem_cons_self
      have solid : ∀ part ∈ (component :: components).map Component.text, '/' ∉ part := by
        intro part member
        obtain ⟨other, among, rfl⟩ := List.mem_map.mp member
        exact (plain other among).solid
      have split := splitSlashes_joinSlashes (List.cons_ne_nil _ _) solid
      have counts := first.counts
      rw [List.map_cons] at text
      have relative : (ofComponents (component :: components)).isAbsolute = false := by
        rw [text, isAbsolute]
        cases chars : joinSlashes (component.text :: components.map Component.text) with
        | nil => rfl
        | cons character rest =>
            by_cases slash : character = '/'
            · rw [chars, slash, splitSlashes] at split
              rw [← (List.cons.inj split).1] at counts
              cases counts
            · simpa using slash
      have bare : (ofComponents (component :: components)).startsHere = false := by
        rw [text, startsHere, split]
        by_cases here : component.text = ['.']
        · rw [here] at counts
          cases counts
        · simpa using here
      rw [components_of_relative relative bare, text]
      exact componentsOf_splitSlashes_texts plain

end Plain

def Spelt (components : List Component) : Prop :=
  ∃ head plain, components = head ++ plain ∧ (head = [] ∨ head = [.root]) ∧
    ∀ component ∈ plain, component.Plain

theorem components_ofComponents {components : List Component} (spelt : Spelt components) :
    (ofComponents components).components = components := by
  obtain ⟨head, plain, rfl, rfl | rfl, each⟩ := spelt
  · exact components_ofComponents_relative each
  · exact components_ofComponents_absolute each

theorem spelt_resolveStep {place : Place} {component : Component} (plain : component.Plain)
    (spelt : Spelt place.reverse) : Spelt (resolveStep place component).reverse := by
  have further {last : Component} (plain : last.Plain) : Spelt (last :: place).reverse := by
    obtain ⟨head, others, same, start, each⟩ := spelt
    refine ⟨head, others ++ [last], ?_, start, ?_⟩
    · rw [List.reverse_cons, same, List.append_assoc]
    · intro other member
      rcases List.mem_append.mp member with before | final
      · exact each other before
      · exact List.mem_singleton.mp final ▸ plain
  cases component with
  | root => exact plain.elim
  | here => exact plain.elim
  | name text => exact further plain
  | up =>
      cases place with
      | nil => exact further plain
      | cons last above =>
          cases last with
          | root => exact spelt
          | here => exact further plain
          | up => exact further plain
          | name text =>
              obtain ⟨head, others, same, start, each⟩ := spelt
              rw [List.reverse_cons] at same
              rcases List.eq_nil_or_concat others with rfl | ⟨front, final, rfl⟩
              · rw [List.append_nil] at same
                rcases start with rfl | rfl
                · simp at same
                · have equal := List.append_eq_singleton_iff.mp same
                  simp at equal
              · rw [List.concat_eq_append, ← List.append_assoc] at same
                obtain ⟨front_eq, -⟩ := List.append_singleton_inj.mp same
                refine ⟨head, front, front_eq, start, fun other member => ?_⟩
                exact each other (by simp [member])

theorem spelt_place (path : Path) : Spelt path.place.reverse := by
  have along (inner : List Component) (start : Place) (spelt : Spelt start.reverse)
      (plain : ∀ component ∈ inner, component.Plain) :
      Spelt (inner.foldl resolveStep start).reverse := by
    induction inner generalizing start with
    | nil => exact spelt
    | cons component inner ih =>
        exact ih _ (spelt_resolveStep (plain component List.mem_cons_self) spelt)
          fun other member => plain other (List.mem_cons_of_mem _ member)
  have plain : ∀ component ∈ componentsOf (splitSlashes path.chars), component.Plain :=
    fun _ member => plain_of_mem_componentsOf member
  have empty : Spelt ([] : Place).reverse := ⟨[], [], rfl, .inl rfl, by simp⟩
  have absolute : Spelt ([.root] : Place).reverse := ⟨[.root], [], rfl, .inr rfl, by simp⟩
  rw [place, components]
  split
  · rw [List.foldl_cons]
    exact along _ _ absolute plain
  · split
    · rw [List.foldl_cons]
      exact along _ _ empty plain
    · exact along _ _ empty plain

/-- A normalized path spells out its place. -/
theorem components_normalize (path : Path) : path.normalize.components = path.place.reverse :=
  components_ofComponents (spelt_place path)

theorem place_normalize (path : Path) : path.normalize.place = path.place := by
  rw [place, components_normalize, (settled_place path).foldl_reverse]

end Stencil.Path
