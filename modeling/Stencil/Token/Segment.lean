import Stencil.Tags
import Stencil.Text.Search

/-!
Cutting a source into segments: tags, and the plain text between them. A tag starts with the
longest start delimiter that matches and ends with the first end delimiter after it; plain text
runs up to the next start delimiter. The segments and the part that is left over make up the source.
-/

namespace Stencil

inductive Segment where
  | plain (text : List Char)
  | tag (kind : TagKind) (inner : List Char)

namespace Segment

def source (tags : Tags) : Segment → List Char
  | .plain text => text
  | .tag kind inner => tags.start kind ++ (inner ++ tags.stop kind)

def kinds : List TagKind := [.expression, .control, .include]

/-- The better of two ways to read a start delimiter: the longer one, and the earlier of two equally
long ones. -/
def longer (tags : Tags) (best : Option TagKind) (kind : TagKind) : Option TagKind :=
  match best with
  | none => some kind
  | some known =>
      if (tags.start known).length < (tags.start kind).length then some kind else some known

def opening? (tags : Tags) (text : List Char) : Option TagKind :=
  (kinds.filter fun kind => Text.startsWith (tags.start kind) text).foldl (longer tags) none

def splitPlain (tags : Tags) : List Char → List Char × List Char
  | [] => ([], [])
  | character :: rest =>
      if (opening? tags (character :: rest)).isSome then ([], character :: rest)
      else
        let (before, after) := splitPlain tags rest
        (character :: before, after)

theorem splitPlain_append (tags : Tags) (text : List Char) :
    (splitPlain tags text).1 ++ (splitPlain tags text).2 = text := by
  induction text with
  | nil => rfl
  | cons character rest ih =>
      simp only [splitPlain]
      split
      · rfl
      · simp [ih]

structure Cut where
  segments : List Segment
  unclosed : Option TagKind

def Cut.cons (segment : Segment) (cut : Cut) : Cut :=
  { cut with segments := segment :: cut.segments }

theorem length_after_lt {tags : Tags} {kind : TagKind} {text inner after : List Char}
    (found : Text.cutAt? (tags.stop kind) (text.drop (tags.start kind).length) =
      some (inner, after)) : after.length < text.length := by
  have whole := congrArg List.length (Text.eq_append_of_cutAt? found)
  have filled := List.length_pos_iff.mpr (tags.stop_ne_nil kind)
  simp only [List.length_drop, List.length_append] at whole
  omega

def cut (tags : Tags) : List Char → Cut
  | [] => ⟨[], none⟩
  | first :: rest =>
      match opening? tags (first :: rest) with
      | none =>
          (cut tags (splitPlain tags rest).2).cons (.plain (first :: (splitPlain tags rest).1))
      | some kind =>
          match _found : Text.cutAt? (tags.stop kind)
              ((first :: rest).drop (tags.start kind).length) with
          | none => ⟨[], some kind⟩
          | some (inner, after) => (cut tags after).cons (.tag kind inner)
termination_by source => source.length
decreasing_by
  · have whole := congrArg List.length (splitPlain_append tags rest)
    simp only [List.length_append] at whole
    simp only [List.length_cons]
    omega
  · exact length_after_lt _found

end Segment

end Stencil
