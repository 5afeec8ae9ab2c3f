import Stencil.FileSet
import Stencil.Proofs.Includes.Chains

/-!
Where tokens start. A token starts at an offset of the text that it is read from, which is the text
of the template or of a file that was included on the way. Its location is what this offset amounts
to in lines and columns of that text, whatever was read in between.
-/

namespace Stencil

namespace Location

def lineFront (text : List Char) (offset : Nat) : List Char :=
  ((text.take offset).reverse.takeWhile fun character => character != '\n').reverse

def lineAround (text : List Char) (offset : Nat) : List Char :=
  lineFront text offset ++ (text.drop offset).takeWhile fun character => character != '\n'

def reference (file : String) (text : List Char) (offset : Nat) : Location where
  file
  line := 1 + (text.take offset).count '\n'
  column := 1 + (lineFront text offset).length
  lineText := String.ofList (Cursor.dropReturn (lineAround text offset))

end Location

/-- Where a token starts: at an offset of a text, to which the include tags of a trail have led,
each at its own offset of the text that holds it. -/
structure Origin where
  trail : List Nat
  file : String
  text : List Char
  offset : Nat

namespace Origin

def Begins (tags : Tags) (origin : Origin) (token : Token) : Prop :=
  ∃ (segment : Segment) (rest : List Char),
    origin.text.drop origin.offset = segment.source tags ++ rest ∧
      segment.Fits tags rest ∧ segment.content? = some token.content

def location (origin : Origin) : Location :=
  Location.reference origin.file origin.text origin.offset

def Ordered (first second : Origin) : Prop :=
  first.trail = second.trail →
    first.file = second.file ∧ first.text = second.text ∧ first.offset < second.offset

variable {trail : List Nat} {file : String} {text : List Char} {offset : Nat}

end Origin

open Segment in
/-- Where the tokens of the segments start that a text has from an offset on, with those of the
files that are included. -/
inductive Origins (tags : Tags) (load : Loader) :
    (trail : List Nat) → (file : String) → (text : List Char) → (offset : Nat) → List Segment →
      List Origin → Prop
  | none {trail file text offset} : Origins tags load trail file text offset [] []
  | own {trail file text offset segment segments origins} : segment.target? file = none →
      Origins tags load trail file text (offset + (segment.source tags).length) segments origins →
      Origins tags load trail file text offset (segment :: segments)
        (⟨trail, file, text, offset⟩ :: origins)
  | included {trail file text offset segment segments path inside front back} :
      segment.target? file = some path → load path = some inside →
      Origins tags load (trail ++ [offset]) path.toString inside.toList 0
        (cut tags inside.toList).segments front →
      Origins tags load trail file text (offset + (segment.source tags).length) segments back →
      Origins tags load trail file text offset (segment :: segments) (front ++ back)

namespace Origins

variable {tags : Tags} {load : Loader} {trail : List Nat} {file : String} {text : List Char}
  {offset : Nat} {segments : List Segment} {origins : List Origin}

theorem unique {others : List Origin}
    (first : Origins tags load trail file text offset segments origins)
    (second : Origins tags load trail file text offset segments others) : origins = others := by
  induction first generalizing others with
  | none =>
      cases second
      rfl
  | own target _ ih =>
      cases second with
      | own _ later => rw [ih later]
      | included otherTarget _ _ _ => simp [target] at otherTarget
  | included target loaded _ _ insideSame laterSame =>
      cases second with
      | own otherTarget _ => simp [target] at otherTarget
      | included otherTarget otherLoaded inside later =>
          rw [target, Option.some.injEq] at otherTarget
          subst otherTarget
          rw [loaded, Option.some.injEq] at otherLoaded
          subst otherLoaded
          rw [insideSame inside, laterSame later]

end Origins

end Stencil
