/-!
Dictionaries as lists of entries in increasing order of their keys, which are compared code point
by code point. Inserting keeps the order and replaces an entry with the same key.
-/

namespace Stencil

abbrev Entries (α : Type) := List (String × α)

namespace Entries

variable {α : Type}

def insert (key : String) (value : α) : Entries α → Entries α
  | [] => [(key, value)]
  | (first, stored) :: rest =>
      if key < first then (key, value) :: (first, stored) :: rest
      else if key = first then (key, value) :: rest
      else (first, stored) :: insert key value rest

def find? (key : String) : Entries α → Option α
  | [] => none
  | (first, stored) :: rest => if key = first then some stored else find? key rest

def ofList (entries : List (String × α)) : Entries α :=
  entries.foldl (fun stored (key, value) => stored.insert key value) []

theorem find?_insert (key other : String) (value : α) (entries : Entries α) :
    (entries.insert key value).find? other =
      if other = key then some value else entries.find? other := by
  induction entries with
  | nil => rfl
  | cons entry rest ih =>
      obtain ⟨first, stored⟩ := entry
      simp only [insert]
      split
      · rfl
      · split
        · rename_i same
          subst same
          simp only [find?]
          split <;> simp_all
        · rename_i different
          simp only [find?, ih]
          by_cases found : other = first
          · subst found
            simp [Ne.symm different]
          · simp [found]

end Entries

end Stencil
