import Stencil.Value.Operators

/-!
The functions inside a value, at any depth. Nothing that a template can do with values brings up a
function that was not inside one of them.
-/

namespace Stencil

namespace Entries

variable {α : Type} {key : String} {value : α} {entry : String × α}

theorem mem_of_find? {entries : Entries α} (found : entries.find? key = some value) :
    (key, value) ∈ entries := by
  induction entries with
  | nil => simp [find?] at found
  | cons first entries ih =>
      rw [find?] at found
      by_cases same : key = first.1
      · rw [if_pos same] at found
        simp [same, ← Option.some.inj found]
      · rw [if_neg same] at found
        exact List.mem_cons_of_mem first (ih found)

theorem mem_of_mem_insert {entries : Entries α} (member : entry ∈ entries.insert key value) :
    entry = (key, value) ∨ entry ∈ entries := by
  induction entries with
  | nil =>
      left
      simpa [insert] using member
  | cons first entries ih =>
      simp only [insert] at member
      split at member
      · exact List.mem_cons.mp member
      · split at member
        · exact (List.mem_cons.mp member).imp_right (List.mem_cons_of_mem first)
        · rcases List.mem_cons.mp member with rfl | later
          · exact .inr List.mem_cons_self
          · exact (ih later).imp_right (List.mem_cons_of_mem first)

theorem mem_of_mem_foldl_insert {entries : List (String × α)} (stored : Entries α)
    (member : entry ∈ entries.foldl (fun stored (key, value) => stored.insert key value) stored) :
    entry ∈ stored ∨ entry ∈ entries := by
  induction entries generalizing stored with
  | nil => exact .inl member
  | cons first entries ih =>
      rcases ih _ member with inserted | later
      · rcases mem_of_mem_insert inserted with rfl | before
        · exact .inr List.mem_cons_self
        · exact .inl before
      · exact .inr (List.mem_cons_of_mem first later)

theorem mem_of_mem_ofList {entries : List (String × α)} (member : entry ∈ ofList entries) :
    entry ∈ entries :=
  (mem_of_mem_foldl_insert [] member).resolve_left List.not_mem_nil

end Entries

namespace Value

mutual

def functions : Value → List Function
  | .array items => functionsOfItems items
  | .map entries => functionsOfEntries entries
  | .function called => [called]
  | _ => []

def functionsOfItems : List Value → List Function
  | [] => []
  | item :: items => functions item ++ functionsOfItems items

def functionsOfEntries : List (String × Value) → List Function
  | [] => []
  | (_, item) :: entries => functions item ++ functionsOfEntries entries

end

variable {function : Function} {value : Value}

theorem mem_functionsOfItems {items : List Value} :
    function ∈ functionsOfItems items ↔ ∃ item ∈ items, function ∈ item.functions := by
  induction items with
  | nil => simp [functionsOfItems]
  | cons item items ih => simp [functionsOfItems, ih]

theorem mem_functionsOfEntries {entries : List (String × Value)} :
    function ∈ functionsOfEntries entries ↔ ∃ entry ∈ entries, function ∈ entry.2.functions := by
  induction entries with
  | nil => simp [functionsOfEntries]
  | cons entry entries ih => simp [functionsOfEntries, ih]

theorem functions_ofList {entries : List (String × Value)}
    (member : function ∈ (Value.map (Entries.ofList entries)).functions) :
    function ∈ functionsOfEntries entries := by
  rw [functions, mem_functionsOfEntries] at member
  obtain ⟨entry, stored, inside⟩ := member
  exact mem_functionsOfEntries.mpr ⟨entry, Entries.mem_of_mem_ofList stored, inside⟩

theorem functions_getD_null {found : Option Value} (member : function ∈ (found.getD .null).functions) :
    ∃ value, found = some value ∧ function ∈ value.functions := by
  cases found with
  | none => simp [functions] at member
  | some value => exact ⟨value, rfl, member⟩

theorem functions_member? {subject : Value} {name : String}
    (found : subject.member? name = some value) (member : function ∈ value.functions) :
    function ∈ subject.functions := by
  cases subject with
  | map entries =>
      obtain rfl := Option.some.inj found
      obtain ⟨value, stored, inside⟩ := functions_getD_null member
      rw [functions, mem_functionsOfEntries]
      exact ⟨_, Entries.mem_of_find? stored, inside⟩
  | null => simp [member?] at found
  | array items =>
      obtain rfl := Option.some.inj found
      split at member <;> simp [functions] at member
  | text content =>
      obtain rfl := Option.some.inj found
      split at member <;> simp [functions] at member
  | bool content =>
      obtain rfl := Option.some.inj found
      simp [functions] at member
  | number content =>
      obtain rfl := Option.some.inj found
      simp [functions] at member
  | function called =>
      obtain rfl := Option.some.inj found
      simp [functions] at member

theorem functions_element? {subject position : Value}
    (found : subject.element? position = some value) (member : function ∈ value.functions) :
    function ∈ subject.functions := by
  rw [element?.eq_def] at found
  split at found
  · obtain rfl := Option.some.inj found
    obtain ⟨value, placed, inside⟩ := functions_getD_null member
    obtain ⟨place, _, stored⟩ := Option.bind_eq_some_iff.mp placed
    rw [functions, mem_functionsOfItems]
    exact ⟨value, List.mem_of_getElem? stored, inside⟩
  · obtain rfl := Option.some.inj found
    obtain ⟨value, placed, inside⟩ := functions_getD_null member
    obtain ⟨character, _, rfl⟩ := Option.map_eq_some_iff.mp placed
    simp [functions] at inside
  · exact functions_member? found member

theorem functions_method? {receiver : Value} {name : String} {arguments : List Value}
    (found : receiver.method? name arguments = some value) : value.functions = [] := by
  rw [method?.eq_def] at found
  split at found
  all_goals repeat' split at found
  all_goals cases found <;> simp only [functions]

theorem functions_applyUnary (operator : UnaryOp) (operand : Value) :
    (applyUnary operator operand).functions = [] := by
  cases operator <;> simp [applyUnary, functions]

theorem functions_add (left right : Value) : (left.add right).functions = [] := by
  rw [add.eq_def]
  split <;> simp [functions]

theorem functions_applyBinary {operator : BinaryOp} {left right : Value}
    (member : function ∈ (applyBinary operator left right).functions) :
    function ∈ left.functions ∨ function ∈ right.functions := by
  cases operator
  case both =>
    rw [applyBinary] at member
    split at member
    · exact .inr member
    · exact .inl member
  case either =>
    rw [applyBinary] at member
    split at member
    · exact .inl member
    · exact .inr member
  all_goals simp [applyBinary, functions, functions_add] at member

end Value

end Stencil
