import Stencil.Proofs.Binary64.Integers
import Stencil.Value.Compare
import Stencil.Value.Json

/-!
Values through JSON and back. What JSON cannot hold comes back as null and everything else as it
was, a zero without its sign; going there and back a second time changes nothing more.
-/

namespace Stencil

def Json.Number.same : Json.Number → Json.Number → Bool
  | .integer left, .integer right => left == right
  | .float left, .float right => left == right
  | _, _ => false

mutual

def Json.same : Json → Json → Bool
  | .null, .null => true
  | .bool left, .bool right => left == right
  | .number left, .number right => left.same right
  | .string left, .string right => left == right
  | .array left, .array right => Json.sameItems left right
  | .object left, .object right => Json.sameEntries left right
  | _, _ => false

def Json.sameItems : List Json → List Json → Bool
  | [], [] => true
  | left :: lefts, right :: rights => Json.same left right && Json.sameItems lefts rights
  | _, _ => false

def Json.sameEntries : List (String × Json) → List (String × Json) → Bool
  | [], [] => true
  | (leftKey, left) :: lefts, (rightKey, right) :: rights =>
      leftKey == rightKey && Json.same left right && Json.sameEntries lefts rights
  | _, _ => false

end

def Json.typeName : Json → String
  | .null => "null"
  | .bool _ => "boolean"
  | .number _ => "number"
  | .string _ => "string"
  | .array _ => "array"
  | .object _ => "object"

theorem Json.typeName_eq_of_same {left right : Json} (equal : left.same right = true) :
    left.typeName = right.typeName := by
  cases left <;> cases right <;> first | rfl | simp [Json.same] at equal

namespace Value

def jsonLeaf : Value → Value
  | .number amount => if amount.isFinite then .number amount else .null
  | .function _ => .null
  | leaf => leaf

mutual

def mapLeaves (change : Value → Value) : Value → Value
  | .array items => .array (mapItems change items)
  | .map entries => .map (mapEntries change entries)
  | leaf => change leaf

def mapItems (change : Value → Value) : List Value → List Value
  | [] => []
  | item :: items => mapLeaves change item :: mapItems change items

def mapEntries (change : Value → Value) : List (String × Value) → List (String × Value)
  | [] => []
  | (key, value) :: entries => (key, mapLeaves change value) :: mapEntries change entries

end

mutual

def fitsJson : Value → Bool
  | .number amount => amount.isFinite
  | .array items => itemsFitJson items
  | .map entries => entriesFitJson entries
  | .function _ => false
  | _ => true

def itemsFitJson : List Value → Bool
  | [] => true
  | item :: items => fitsJson item && itemsFitJson items

def entriesFitJson : List (String × Value) → Bool
  | [] => true
  | (_, value) :: entries => fitsJson value && entriesFitJson entries

end

section Numbers

variable {amount : Float}

/-- A finite number is stored as the integer that it is or as it is. -/
theorem numberToJson_finite (finite : amount.isFinite = true) :
    (∃ whole, Binary64.toInt? amount = some whole ∧ whole.natAbs < 2 ^ 53 ∧
      numberToJson amount = .number (.integer whole)) ∨
    numberToJson amount = .number (.float amount) := by
  unfold numberToJson
  split
  · rename_i whole known
    split
    · rename_i small
      have below : whole.natAbs < 2 ^ 53 := by
        simp only [integerLimit] at small
        omega
      exact .inl ⟨whole, known, below, rfl⟩
    · exact .inr rfl
  · rw [if_pos finite]
    exact .inr rfl

theorem numberToJson_unbounded (unbounded : amount.isFinite = false) :
    numberToJson amount = .null := by
  unfold numberToJson
  split
  · rename_i known
    exact nomatch unbounded.symm.trans (Binary64.isFinite_of_toInt? known)
  · simp [unbounded]

/-- A finite number comes back as itself, except that a zero loses its sign. -/
theorem ofJson_numberToJson (finite : amount.isFinite = true) :
    ofJson (numberToJson amount) = .number amount ∨
      Binary64.toInt? amount = some 0 ∧ ofJson (numberToJson amount) = .number 0.0 := by
  obtain ⟨whole, known, below, stored⟩ | stored := numberToJson_finite finite
  · rw [stored]
    by_cases zero : whole = 0
    · subst zero
      exact .inr ⟨known, rfl⟩
    · exact .inl (congrArg Value.number (Binary64.ofInt_of_toInt? known zero below))
  · rw [stored]
    exact .inl rfl

theorem same_ofJson_numberToJson :
    (ofJson (numberToJson amount)).same (jsonLeaf (.number amount)) = true := by
  cases finite : amount.isFinite with
  | false =>
      rw [numberToJson_unbounded finite, jsonLeaf, finite]
      rfl
  | true =>
      rw [jsonLeaf, if_pos finite]
      obtain unchanged | ⟨known, zero⟩ := ofJson_numberToJson finite
      · rw [unchanged, same, Binary64.beq_self finite]
      · rw [zero, same]
        exact Binary64.beq_of_toInt? Binary64.toInt?_zero known (by decide)

theorem ofJson_numberToJson_again :
    ofJson (toJson (ofJson (numberToJson amount))) = ofJson (numberToJson amount) := by
  cases finite : amount.isFinite with
  | false =>
      rw [numberToJson_unbounded finite]
      rfl
  | true =>
      obtain unchanged | ⟨_, zero⟩ := ofJson_numberToJson finite
      · rw [unchanged, toJson, unchanged]
      · rw [zero, toJson, numberToJson, Binary64.toInt?_zero]
        rfl

theorem beq_of_numberToJson_same {left right : Float} (leftFinite : left.isFinite = true)
    (rightFinite : right.isFinite = true)
    (equal : (numberToJson left).same (numberToJson right) = true) : (left == right) = true := by
  obtain ⟨_, leftKnown, below, leftStored⟩ | leftStored := numberToJson_finite leftFinite
  · obtain ⟨_, rightKnown, _, rightStored⟩ | rightStored := numberToJson_finite rightFinite
    · rw [leftStored, rightStored, Json.same, Json.Number.same, beq_iff_eq] at equal
      subst equal
      exact Binary64.beq_of_toInt? leftKnown rightKnown below
    · simp [leftStored, rightStored, Json.same, Json.Number.same] at equal
  · obtain ⟨_, _, _, rightStored⟩ | rightStored := numberToJson_finite rightFinite
    · simp [leftStored, rightStored, Json.same, Json.Number.same] at equal
    · rwa [leftStored, rightStored, Json.same, Json.Number.same] at equal

end Numbers

mutual

theorem same_ofJson_toJson (value : Value) :
    (ofJson (toJson value)).same (value.mapLeaves jsonLeaf) = true := by
  cases value with
  | null => rfl
  | bool value => cases value <;> rfl
  | number amount => exact same_ofJson_numberToJson
  | text content => simp [toJson, ofJson, mapLeaves, jsonLeaf, same]
  | array items =>
      rw [toJson, ofJson, mapLeaves, same]
      exact sameItems_ofJson_toJson items
  | map entries =>
      rw [toJson, ofJson, mapLeaves, same]
      exact sameEntries_ofJson_toJson entries
  | function _ => rfl

theorem sameItems_ofJson_toJson (items : List Value) :
    sameItems (itemsOfJson (itemsToJson items)) (mapItems jsonLeaf items) = true := by
  cases items with
  | nil => rfl
  | cons item items =>
      rw [itemsToJson, itemsOfJson, mapItems, sameItems, same_ofJson_toJson item,
        sameItems_ofJson_toJson items, Bool.and_self]

theorem sameEntries_ofJson_toJson (entries : List (String × Value)) :
    sameEntries (entriesOfJson (entriesToJson entries)) (mapEntries jsonLeaf entries) = true := by
  match entries with
  | [] => rfl
  | (key, value) :: entries =>
      rw [entriesToJson, entriesOfJson, mapEntries, sameEntries, same_ofJson_toJson value,
        sameEntries_ofJson_toJson entries, beq_self_eq_true, Bool.and_self, Bool.and_self]

end

mutual

theorem ofJson_toJson_again (value : Value) :
    ofJson (toJson (ofJson (toJson value))) = ofJson (toJson value) := by
  cases value with
  | null | bool _ | text _ | function _ => rfl
  | number amount => exact ofJson_numberToJson_again
  | array items => simp only [toJson, ofJson, itemsOfJson_itemsToJson_again items]
  | map entries => simp only [toJson, ofJson, entriesOfJson_entriesToJson_again entries]

theorem itemsOfJson_itemsToJson_again (items : List Value) :
    itemsOfJson (itemsToJson (itemsOfJson (itemsToJson items))) =
      itemsOfJson (itemsToJson items) := by
  cases items with
  | nil => rfl
  | cons item items =>
      simp only [itemsToJson, itemsOfJson, ofJson_toJson_again item,
        itemsOfJson_itemsToJson_again items]

theorem entriesOfJson_entriesToJson_again (entries : List (String × Value)) :
    entriesOfJson (entriesToJson (entriesOfJson (entriesToJson entries))) =
      entriesOfJson (entriesToJson entries) := by
  match entries with
  | [] => rfl
  | (key, value) :: entries =>
      simp only [entriesToJson, entriesOfJson, ofJson_toJson_again value,
        entriesOfJson_entriesToJson_again entries]

end

theorem typeName_toJson {value : Value} (fits : value.fitsJson = true) :
    value.toJson.typeName = value.typeName := by
  cases value with
  | number amount =>
      obtain ⟨_, _, _, stored⟩ | stored := numberToJson_finite fits
      · exact congrArg Json.typeName stored
      · exact congrArg Json.typeName stored
  | function _ => exact nomatch fits
  | _ => rfl

mutual

theorem same_of_toJson_same {left right : Value} (leftFits : left.fitsJson = true)
    (rightFits : right.fitsJson = true) (equal : left.toJson.same right.toJson = true) :
    left.same right = true := by
  have types : left.typeName = right.typeName := by
    rw [← typeName_toJson leftFits, ← typeName_toJson rightFits]
    exact Json.typeName_eq_of_same equal
  cases left with
  | null =>
      cases right with
      | null => rfl
      | _ => simp [typeName] at types
  | bool left =>
      cases right with
      | bool right => exact equal
      | _ => simp [typeName] at types
  | number left =>
      cases right with
      | number right => exact beq_of_numberToJson_same leftFits rightFits equal
      | _ => simp [typeName] at types
  | text left =>
      cases right with
      | text right => exact equal
      | _ => simp [typeName] at types
  | array lefts =>
      cases right with
      | array rights =>
          rw [toJson, toJson, Json.same] at equal
          rw [same]
          exact sameItems_of_toJson_same leftFits rightFits equal
      | _ => simp [typeName] at types
  | map lefts =>
      cases right with
      | map rights =>
          rw [toJson, toJson, Json.same] at equal
          rw [same]
          exact sameEntries_of_toJson_same leftFits rightFits equal
      | _ => simp [typeName] at types
  | function _ => exact nomatch leftFits

theorem sameItems_of_toJson_same {lefts rights : List Value}
    (leftsFit : itemsFitJson lefts = true) (rightsFit : itemsFitJson rights = true)
    (equal : Json.sameItems (itemsToJson lefts) (itemsToJson rights) = true) :
    sameItems lefts rights = true := by
  match lefts, rights with
  | [], [] => rfl
  | left :: lefts, right :: rights =>
      simp only [itemsToJson, Json.sameItems, itemsFitJson, sameItems, Bool.and_eq_true] at *
      exact ⟨same_of_toJson_same leftsFit.1 rightsFit.1 equal.1,
        sameItems_of_toJson_same leftsFit.2 rightsFit.2 equal.2⟩

theorem sameEntries_of_toJson_same {lefts rights : List (String × Value)}
    (leftsFit : entriesFitJson lefts = true) (rightsFit : entriesFitJson rights = true)
    (equal : Json.sameEntries (entriesToJson lefts) (entriesToJson rights) = true) :
    sameEntries lefts rights = true := by
  match lefts, rights with
  | [], [] => rfl
  | (leftKey, left) :: lefts, (rightKey, right) :: rights =>
      simp only [entriesToJson, Json.sameEntries, entriesFitJson, sameEntries,
        Bool.and_eq_true] at *
      exact ⟨⟨equal.1.1, same_of_toJson_same leftsFit.1 rightsFit.1 equal.1.2⟩,
        sameEntries_of_toJson_same leftsFit.2 rightsFit.2 equal.2⟩

end

/-- What JSON gives back of a value: the value with every function and every number that is not
finite replaced by null. A second round trip changes nothing, and values that fit into JSON become
equal JSON values only if they are equal. -/
theorem json_roundTrip (value other : Value) :
    (ofJson (toJson value)).same (value.mapLeaves jsonLeaf) = true ∧
      ofJson (toJson (ofJson (toJson value))) = ofJson (toJson value) ∧
      (value.fitsJson = true → other.fitsJson = true →
        value.toJson.same other.toJson = true → value.same other = true) :=
  ⟨same_ofJson_toJson value, ofJson_toJson_again value, same_of_toJson_same⟩

/-- The two zeros are one JSON number, and they are equal. -/
theorem json_roundTrip_of_zeros :
    let left : Value := .array [.number (-0.0), .map [("key", .number 1.5)]]
    let right : Value := .array [.number 0.0, .map [("key", .number 1.5)]]
    left.fitsJson = true ∧ right.fitsJson = true ∧ left.toJson.same right.toJson = true ∧
      left.same right = true := by
  intro left right
  have leftFits : left.fitsJson = true := by decide
  have rightFits : right.fitsJson = true := by decide
  have equal : left.toJson.same right.toJson = true := by decide +kernel
  exact ⟨leftFits, rightFits, equal, (json_roundTrip left right).2.2 leftFits rightFits equal⟩

end Value

end Stencil
