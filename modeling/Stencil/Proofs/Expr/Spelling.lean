import Stencil.Proofs.Expr.Writing

/-!
Words that are written as messages show them. Symbols and names are read back as they are, provided
that a blank follows each of them.
-/

namespace Stencil

namespace Lexeme

def Verbatim : Lexeme → Prop
  | .symbol _ => True
  | .name written => Text.isName written.toList = true ∧ Keyword.ofText? written = none
  | _ => False

def spaced (words : List Lexeme) : List Char :=
  words.flatMap fun word => word.spelling.toList ++ [' ']

theorem Verbatim.writes {word : Lexeme} (verbatim : word.Verbatim) :
    Writes word word.spelling.toList := by
  match word with
  | .symbol mark =>
      rw [spelling, String.toList_ofList]
      exact .symbol mark
  | .name written => exact .name verbatim.1 verbatim.2

theorem written_spaced {words : List Lexeme} (verbatim : ∀ word ∈ words, word.Verbatim) :
    Written words (spaced words) := by
  induction words with
  | nil => exact .nothing
  | cons word words ih =>
      have later := ih fun other member => verbatim other (List.mem_cons_of_mem word member)
      have here := verbatim word List.mem_cons_self
      rw [spaced, List.flatMap_cons, List.append_assoc]
      exact .word here.writes (List.all_eq_true.mp rfl) (by simp) later

theorem readAll?_spaced {words : List Lexeme} (verbatim : ∀ word ∈ words, word.Verbatim) :
    readAll? (spaced words) = some words :=
  readAll?_of_written (written_spaced verbatim)

end Lexeme

end Stencil
