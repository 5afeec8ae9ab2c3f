import Stencil.Proofs.Expr.Reading
import Stencil.Proofs.Expr.Writing

/-!
Names by themselves. A name is read as a variable, unless it is one of the keywords, which stand for
their own values.
-/

namespace Stencil

def Keyword.literal : Keyword → Expr
  | .trueWord => .bool true
  | .falseWord => .bool false
  | .nullWord => .null
  | .undefinedWord => .null

namespace Lexeme

theorem ofName_eq_name_iff {written name : String} :
    ofName written = .name name ↔ written = name ∧ Keyword.ofText? name = none := by
  unfold ofName
  split
  · rename_i keyword
    constructor
    · intro same
      cases same
    · rintro ⟨rfl, free⟩
      cases keyword.symm.trans free
  · rename_i free
    constructor
    · intro same
      cases same
      exact ⟨rfl, free⟩
    · rintro ⟨rfl, _⟩
      rfl

/-- Only a name is read as a name. -/
theorem isName_of_readWord? {first : Char} {rest after : List Char} {name : String}
    (read : readWord? first rest = some (.name name, after)) :
    Text.isName name.toList = true ∧ Keyword.ofText? name = none := by
  rw [readWord?] at read
  split at read
  · simp only [readNumber?] at read
    split at read
    · cases read
    · simp at read
  split at read
  · simp at read
  split at read
  · rename_i start
    obtain ⟨rfl, free⟩ := ofName_eq_name_iff.mp (Prod.mk.inj (Option.some.inj read)).1
    refine ⟨?_, free⟩
    simp [Text.isName, start]
  · simp only [readSymbol?, List.findSome?_eq_some_iff] at read
    obtain ⟨_, _, _, _, found, _⟩ := read
    simp at found

/-- The names of expressions are the names of loops without the keywords. -/
theorem readAll?_eq_name_iff {name : String} :
    readAll? name.toList = some [.name name] ↔
      Text.isName name.toList = true ∧ Keyword.ofText? name = none := by
  constructor
  · intro read
    rw [readAll?_eq] at read
    split at read
    · cases read
    · split at read
      · cases read
      · rename_i found
        simp only [Option.map_eq_some_iff, List.cons.injEq] at read
        obtain ⟨_, _, rfl, _⟩ := read
        exact isName_of_readWord? found
  · rintro ⟨named, free⟩
    rw [readAll?_name named, String.ofList_toList, ofName, free]

end Lexeme

namespace Expr

theorem ofWords_name (name : String) : ofWords [.name name] = .ok (.var name) := by cbv

theorem ofWords_keyword (word : Keyword) : ofWords [.keyword word] = .ok word.literal := by
  cases word <;> cbv

theorem compile_name {name : String} (named : Text.isName name.toList = true)
    (free : Keyword.ofText? name = none) : compile name = .ok (.var name) := by
  rw [compile, Lexeme.readAll?_eq_name_iff.mpr ⟨named, free⟩]
  exact ofWords_name name

theorem compile_keyword {name : String} {word : Keyword} (named : Text.isName name.toList = true)
    (reserved : Keyword.ofText? name = some word) : compile name = .ok word.literal := by
  rw [compile, Lexeme.readAll?_name named, String.ofList_toList, Lexeme.ofName, reserved]
  exact ofWords_keyword word

end Expr

end Stencil
