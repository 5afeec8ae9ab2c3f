import Stencil.Text.CaseTable
import Stencil.Text.Ranges

/-!
Capital and small forms of text. A character may become several characters, and a capital sigma
that ends a word becomes the final small sigma.
-/

namespace Stencil.Text

def CaseRun.image? (run : CaseRun) (code : Nat) : Option Nat :=
  if run.first ≤ code ∧ code ≤ run.last ∧ (code - run.first) % run.stride = 0 then
    some (code + run.shift).toNat
  else none

def imageIn (runs : List CaseRun) (code : Nat) : Nat :=
  (runs.findSome? (·.image? code)).getD code

def capitals (character : Char) : List Char :=
  match longCapitals.lookup character.toNat with
  | some codes => codes.map Char.ofNat
  | none => [Char.ofNat (imageIn capitalRuns character.toNat)]

def toCapitals (text : List Char) : List Char := text.flatMap capitals

def startsCased (text : List Char) : Bool :=
  match text.dropWhile (fun character => inRanges character.toNat caseIgnorableRanges) with
  | [] => false
  | character :: _ => inRanges character.toNat casedRanges

def capitalSigma : Char := Char.ofNat 0x3A3

def smallSigma : Char := Char.ofNat 0x3C3

def finalSigma : Char := Char.ofNat 0x3C2

def dottedCapitalI : Char := Char.ofNat 0x130

/-- The small form of one character that follows `before`, given nearest first, and precedes
`after`. -/
def smalls (before : List Char) (character : Char) (after : List Char) : List Char :=
  if character = capitalSigma then
    [if startsCased before && !startsCased after then finalSigma else smallSigma]
  else if character = dottedCapitalI then ['i', Char.ofNat 0x307]
  else [Char.ofNat (imageIn smallRuns character.toNat)]

def toSmallsAfter (before : List Char) : List Char → List Char
  | [] => []
  | character :: rest =>
      smalls before character rest ++ toSmallsAfter (character :: before) rest

def toSmalls (text : List Char) : List Char := toSmallsAfter [] text

end Stencil.Text
