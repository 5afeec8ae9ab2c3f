import Stencil.Config
import Stencil.Proofs.Outcome

/-!
Where tags come from. They are given as six texts, or made from settings that are merged or read,
with the defaults for what is left open. Settings make no tags if one of the texts is set to the
empty text, and they make tags in every other case.
-/

namespace Stencil

namespace Delimiter

theorem text_ne_empty (delimiter : Delimiter) : delimiter.text ≠ "" := by
  intro empty
  apply delimiter.chars_ne_nil
  simpa [text] using congrArg String.toList empty

theorem text_inj {delimiter other : Delimiter} :
    delimiter.text = other.text ↔ delimiter = other := by
  constructor
  · intro same
    obtain ⟨chars, filled⟩ := delimiter
    obtain ⟨others, otherFilled⟩ := other
    obtain rfl : chars = others := String.ofList_injective same
    rfl
  · rintro rfl
    rfl

theorem ofString?_eq_some_iff {text : String} {delimiter : Delimiter} :
    ofString? text = some delimiter ↔ delimiter.text = text := by
  rw [ofString?]
  split
  · rename_i filled
    rw [Option.some.injEq, ← text_inj, Delimiter.text, String.ofList_toList, eq_comm]
  · rename_i empty
    simp only [reduceCtorEq, false_iff]
    rintro rfl
    exact empty (by simpa [text] using delimiter.chars_ne_nil)

end Delimiter

namespace TagSettings

theorem pick_eq_ok_iff {setting : Option String} {fallback delimiter : Delimiter} {name : String} :
    pick setting fallback name = .ok delimiter ↔
      setting ≠ some "" ∧ some delimiter.text = setting.or (some fallback.text) := by
  cases setting with
  | none =>
      simp [pick, Delimiter.text_inj, eq_comm]
  | some text =>
      simp only [pick, ne_eq, Option.some.injEq, Option.some_or]
      constructor
      · intro picked
        split at picked
        · rename_i found
          obtain rfl := Except.ok.inj picked
          have same := Delimiter.ofString?_eq_some_iff.mp found
          exact ⟨same ▸ Delimiter.text_ne_empty _, same⟩
        · simp at picked
      · rintro ⟨_, same⟩
        rw [Delimiter.ofString?_eq_some_iff.mpr same]

/-- Settings make tags exactly if they set nothing to the empty text: the tags that they set, and
the defaults for the others. -/
theorem toTags_eq_ok_iff {settings : TagSettings} {tags : Tags} :
    settings.toTags = .ok tags ↔
      some "" ∉ settings.toTexts ∧ ofTags tags = (ofTags {}).merge settings := by
  simp only [toTags, Outcome.bind_eq_ok_iff, pick_eq_ok_iff, toTexts, ofTags, merge, mk.injEq,
    List.mem_cons, List.not_mem_nil, or_false, not_or, eq_comm (a := some "")]
  constructor
  · rintro ⟨_, first, _, second, _, third, _, fourth, _, fifth, _, sixth, made⟩
    obtain rfl := Except.ok.inj made
    exact ⟨⟨first.1, second.1, third.1, fourth.1, fifth.1, sixth.1⟩,
      first.2, second.2, third.2, fourth.2, fifth.2, sixth.2⟩
  · rintro ⟨⟨first, second, third, fourth, fifth, sixth⟩, same⟩
    exact ⟨_, ⟨first, same.1⟩, _, ⟨second, same.2.1⟩, _, ⟨third, same.2.2.1⟩,
      _, ⟨fourth, same.2.2.2.1⟩, _, ⟨fifth, same.2.2.2.2.1⟩, _, ⟨sixth, same.2.2.2.2.2⟩, rfl⟩

end TagSettings

inductive Tags.Obtained (tags : Tags) : Prop
  | given (texts : List String) : texts.length = TagSettings.names.length →
      (TagSettings.ofTexts (texts.map some)).toTags = .ok tags → Obtained tags
  | merged (layers : List TagSettings) :
      (layers.foldl TagSettings.merge {}).toTags = .ok tags → Obtained tags
  | read (text : String) (settings : TagSettings) :
      (Json.Raw.read? text.toList).bind TagSettings.ofRaw? = some settings →
      settings.toTags = .ok tags → Obtained tags

namespace Tags

theorem filled_texts (tags : Tags) : some "" ∉ (TagSettings.ofTags tags).toTexts := by
  simp [TagSettings.toTexts, TagSettings.ofTags, eq_comm (a := ""), Delimiter.text_ne_empty]

/-- Tags are had by giving their own texts. -/
theorem obtained (tags : Tags) : tags.Obtained := by
  refine .given [tags.expressionStart.text, tags.expressionEnd.text, tags.controlStart.text,
    tags.controlEnd.text, tags.includeStart.text, tags.includeEnd.text] rfl ?_
  exact TagSettings.toTags_eq_ok_iff.mpr ⟨tags.filled_texts, rfl⟩

end Tags

end Stencil
