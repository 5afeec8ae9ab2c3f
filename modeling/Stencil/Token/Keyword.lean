import Stencil.Text.Blank
import Stencil.Text.Letter
import Stencil.Text.Search
import Stencil.Token.Basic

/-!
The control words. A tag's text starts, after blanks, with one of them; what follows must not
continue the word, so that `format` is not read as `for`.
-/

namespace Stencil.Token

def dropWords? : (words : List (List Char)) → List Char → Option (List Char)
  | [], text => some text
  | word :: words, text =>
      let trimmed := Text.trimStart text
      if trimmed.length = text.length then none
      else (Text.dropStart? word trimmed).bind (dropWords? words)

def dropKeyword? (words : List (List Char)) (text : List Char) : Option (List Char) :=
  match words with
  | [] => none
  | first :: others =>
      match (Text.dropStart? first text).bind (dropWords? others) with
      | none => none
      | some [] => some []
      | some (next :: rest) => if Text.isNamePart next then none else some (next :: rest)

/-- The control words in the order in which they are tried; `else if` comes before `else`. -/
def keywords : List (List (List Char) × TokenKind) := [
  ([['f', 'o', 'r']], .forLoop),
  ([['e', 'f', 'o', 'r']], .endFor),
  ([['i', 'f']], .ifBranch),
  ([['e', 'l', 's', 'e'], ['i', 'f']], .elseIf),
  ([['e', 'l', 's', 'e']], .elseBranch),
  ([['e', 'i', 'f']], .endIf)]

def carriesText : TokenKind → Bool
  | .forLoop => true
  | .ifBranch => true
  | .elseIf => true
  | _ => false

def control? (inner : List Char) : Option (TokenKind × Option String) :=
  keywords.findSome? fun (words, kind) =>
    (dropKeyword? words (Text.trimStart inner)).map fun rest =>
      (kind, if carriesText kind then some (String.ofList (Text.trim rest)) else none)

end Stencil.Token
