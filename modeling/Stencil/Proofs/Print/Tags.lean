import Mathlib.Data.List.Infix
import Stencil.Proofs.Text.Trimming
import Stencil.Proofs.Token.Contents
import Stencil.Token.Scan

/-!
Writing tokens out with the default delimiters. What a token says is written as plain text or as one
tag, with single spaces between the delimiters and what stands between them. Scanning a sequence that
is written in this way says the same again.
-/

namespace Stencil

def TagKind.opening : TagKind → List Char
  | .expression => ['[', '[']
  | .control => ['[', '!']
  | .include => ['[', '@']

def TagKind.closing : TagKind → List Char
  | .expression => [']', ']']
  | .control => ['!', ']']
  | .include => ['@', ']']

@[simp] theorem Tags.start_default (kind : TagKind) : Tags.start {} kind = kind.opening := by
  cases kind <;> rfl

@[simp] theorem Tags.stop_default (kind : TagKind) : Tags.stop {} kind = kind.closing := by
  cases kind <;> rfl

def TokenKind.word : TokenKind → List Char
  | .plain => []
  | .expression => []
  | .forLoop => ['f', 'o', 'r']
  | .endFor => ['e', 'f', 'o', 'r']
  | .ifBranch => ['i', 'f']
  | .elseIf => ['e', 'l', 's', 'e', ' ', 'i', 'f']
  | .elseBranch => ['e', 'l', 's', 'e']
  | .endIf => ['e', 'i', 'f']

def Segment.ofContent : TokenKind × Option String → Segment
  | (.plain, text) => .plain (text.getD "").toList
  | (.expression, text) => .tag .expression (' ' :: ((text.getD "").toList ++ [' ']))
  | (kind, none) => .tag .control (' ' :: (kind.word ++ [' ']))
  | (kind, some text) => .tag .control (' ' :: (kind.word ++ ' ' :: (text.toList ++ [' '])))

namespace Token

def Enclosed (kind : TagKind) (text : String) : Prop :=
  Text.trim text.toList = text.toList ∧ ¬ kind.closing <:+: text.toList

def Unopened (text : String) : Prop :=
  text ≠ "" ∧ (∀ kind : TagKind, ¬ kind.opening <:+: text.toList) ∧ ¬ ['['] <:+ text.toList

instance (kind : TagKind) (text : String) : Decidable (Enclosed kind text) :=
  inferInstanceAs (Decidable (_ ∧ _))

instance (text : String) : Decidable (Unopened text) :=
  decidable_of_iff
    (text ≠ "" ∧ (∀ kind ∈ Segment.kinds, ¬ kind.opening <:+: text.toList) ∧
      ¬ ['['] <:+ text.toList)
    (by simp [Unopened, Segment.kinds, TagKind.forall_iff])

def Writable : TokenKind × Option String → Prop
  | (.plain, some text) => Unopened text
  | (.expression, some text) => Enclosed .expression text
  | (kind, some text) => carriesText kind = true ∧ Enclosed .control text
  | (kind, none) => kind ∈ [TokenKind.endFor, .elseBranch, .endIf]

theorem Enclosed.trim_spaced {kind : TagKind} {text : String} (enclosed : Enclosed kind text) :
    String.ofList (Text.trim (' ' :: (text.toList ++ [' ']))) = text := by
  rw [Text.trim_spaced, enclosed.1, String.ofList_toList]

theorem control?_carried {kind : TokenKind} (text : List Char)
    (carries : carriesText kind = true) :
    control? (' ' :: (kind.word ++ ' ' :: text)) =
      some (kind, some (String.ofList (Text.trim (' ' :: text)))) := by
  have space : Text.isNamePart ' ' = false := by decide
  have solid : Text.isBlank 'f' = false ∧ Text.isBlank 'i' = false ∧ Text.isBlank 'e' = false := by
    decide
  cases kind with
  | forLoop | ifBranch | elseIf =>
      simp [control?, keywords, TokenKind.word, dropKeyword?, dropWords?, Text.dropStart?, space,
        carriesText, Text.isBlank_space, solid, Text.trimStart]
  | _ => simp [carriesText] at carries

theorem control?_bare {kind : TokenKind}
    (bare : kind ∈ [TokenKind.endFor, .elseBranch, .endIf]) :
    control? (' ' :: (kind.word ++ [' '])) = some (kind, none) := by
  simp only [List.mem_cons, List.not_mem_nil, or_false] at bare
  rcases bare with rfl | rfl | rfl <;> decide +kernel

theorem content?_ofContent {content : TokenKind × Option String} (writable : Writable content) :
    (Segment.ofContent content).content? = some content := by
  match content with
  | (.plain, some text) => simp [Segment.ofContent, Segment.content?]
  | (.expression, some text) =>
      simp only [Segment.ofContent, Segment.content?, Option.getD_some]
      rw [writable.trim_spaced]
  | (.forLoop, some text) | (.ifBranch, some text) | (.elseIf, some text) =>
      simp only [Segment.ofContent, Segment.content?]
      rw [control?_carried _ writable.1, writable.2.trim_spaced]
  | (.endFor, none) | (.elseBranch, none) | (.endIf, none) =>
      simp only [Segment.ofContent, Segment.content?]
      exact control?_bare writable
  | (.plain, none) | (.expression, none) | (.forLoop, none) | (.ifBranch, none) | (.elseIf, none) =>
      simp [Writable] at writable
  | (.endFor, some text) | (.elseBranch, some text) | (.endIf, some text) =>
      simp [Writable, carriesText] at writable

end Token

namespace Segment

theorem opens_default (kind : TagKind) (text : List Char) :
    Opens {} kind (Tags.start {} kind ++ text) := by
  refine ⟨List.prefix_append _ _, ?_⟩
  cases kind <;> simp [TagKind.forall_iff, TagKind.opening, TagKind.rank]

theorem exists_opening (kind : TagKind) : ∃ second, kind.opening = ['[', second] := by
  cases kind <;> exact ⟨_, rfl⟩

theorem exists_closing (kind : TagKind) : ∃ first, first ≠ ' ' ∧ kind.closing = [first, ']'] := by
  cases kind <;> exact ⟨_, by decide, rfl⟩

theorem avoids_spaced {kind : TagKind} {text : List Char} (absent : ¬ kind.closing <:+: text)
    (rest : List Char) : Text.Avoids (Tags.stop {} kind) (' ' :: (text ++ [' '])) rest := by
  obtain ⟨first, solid, same⟩ := exists_closing kind
  rw [Tags.stop_default, same]
  rw [same] at absent
  have behind : ([' '] ++ rest).head? ≠ some ']' := by simp
  rw [Text.avoids_cons, Text.avoids_append]
  refine ⟨by simp [solid], Text.avoids_pair absent fun _ => behind, ?_⟩
  simp [Text.avoids_cons, solid]

theorem avoids_word (kind : TokenKind) (rest : List Char) :
    Text.Avoids (Tags.stop {} .control) (' ' :: kind.word) rest := by
  cases kind <;> simp [TokenKind.word, TagKind.closing, Text.avoids_cons]

theorem fits_tag {kind : TagKind} {inner rest : List Char}
    (avoids : Text.Avoids (Tags.stop {} kind) inner (Tags.stop {} kind ++ rest)) :
    (tag kind inner).Fits {} rest := by
  refine ⟨?_, avoids⟩
  rw [source, List.append_assoc]
  exact opens_default kind _

theorem fits_plain {text : String} (unopened : Token.Unopened text) (rest : List Char) :
    (plain text.toList).Fits {} rest := by
  obtain ⟨filled, absent, last⟩ := unopened
  refine ⟨by simpa using filled, ?_⟩
  intro kind
  have free := absent kind
  obtain ⟨second, same⟩ := exists_opening kind
  rw [Tags.start_default, same]
  rw [same] at free
  exact Text.avoids_pair free fun ends => absurd ends last

theorem fits_ofContent {content : TokenKind × Option String} (writable : Token.Writable content)
    (rest : List Char) : (ofContent content).Fits {} rest := by
  match content with
  | (.plain, some text) => exact fits_plain writable rest
  | (.expression, some text) => exact fits_tag (avoids_spaced writable.2 _)
  | (.forLoop, some text) | (.ifBranch, some text) | (.elseIf, some text) =>
      apply fits_tag
      rw [← List.cons_append, Text.avoids_append]
      exact ⟨avoids_word _ _, avoids_spaced writable.2.2 _⟩
  | (.endFor, none) | (.elseBranch, none) | (.endIf, none) =>
      apply fits_tag
      rw [← List.cons_append, Text.avoids_append]
      exact ⟨avoids_word _ _, by simp [TagKind.closing, Text.avoids_cons]⟩
  | (.plain, none) | (.expression, none) | (.forLoop, none) | (.ifBranch, none) | (.elseIf, none) =>
      simp [Token.Writable] at writable
  | (.endFor, some text) | (.elseBranch, some text) | (.endIf, some text) =>
      simp [Token.Writable, Token.carriesText] at writable

theorem covers_ofContents {contents : List (TokenKind × Option String)}
    (writable : ∀ content ∈ contents, Token.Writable content) (rest : List Char) :
    Covers {} rest (contents.map ofContent) := by
  induction contents with
  | nil => trivial
  | cons content contents ih =>
      obtain ⟨first, later⟩ := List.forall_mem_cons.mp writable
      exact ⟨fits_ofContent first _, ih later⟩

theorem says?_of_content? (answer : Path → Option (List (TokenKind × Option String)))
    (file : String) {segment : Segment} {content : TokenKind × Option String}
    (said : segment.content? = some content) : segment.says? answer file = some [content] := by
  match segment with
  | .plain text => simp [says?, said]
  | .tag .expression inner => simp [says?, said]
  | .tag .control inner => simp [says?, said]
  | .tag .include inner => simp [content?] at said

theorem allSay?_ofContents (answer : Path → Option (List (TokenKind × Option String)))
    (file : String) {contents : List (TokenKind × Option String)}
    (writable : ∀ content ∈ contents, Token.Writable content) :
    allSay? answer file (contents.map ofContent) = some contents := by
  induction contents with
  | nil => rfl
  | cons content contents ih =>
      obtain ⟨first, later⟩ := List.forall_mem_cons.mp writable
      have said := says?_of_content? answer file (Token.content?_ofContent first)
      rw [List.map_cons, allSay?, ih later, said]
      rfl

/-- What is written for a sequence of tokens says the same when it is scanned, unless two plain
texts in it stand side by side. -/
theorem exists_scan_ofContents (load : Loader) (name : String)
    {contents : List (TokenKind × Option String)}
    (writable : ∀ content ∈ contents, Token.Writable content)
    (separated : Separated (contents.map ofContent)) :
    ∃ tokens, Token.scan {} load name (String.ofList (sources {} (contents.map ofContent))) =
      .ok tokens ∧ tokens.map Token.content = contents := by
  have segmentation : Segmentation {} (sources {} (contents.map ofContent))
      (contents.map ofContent) := ⟨rfl, covers_ofContents writable [], separated⟩
  apply Token.contents?_eq_some_iff.mp
  rw [Token.scan, Token.contents?_file, String.toList_ofList,
    cut_eq_iff_segmentation.mpr segmentation, if_pos rfl, allSay?_ofContents _ name writable]

end Segment

end Stencil
