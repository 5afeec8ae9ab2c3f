import Stencil.Binary64.Layout

/-!
How templates show numbers: with the fewest digits that read back, in exponent form from `1e+21`
on and below `1e-6`, and with `NaN` and `Infinity` spelled out.
-/

namespace Stencil

def numberLayout : Binary64.Layout where
  positional exponent := -6 ≤ exponent && exponent ≤ 20
  integralTail := ""
  notANumber := "NaN"
  infinity := "Infinity"
  tie := .up

def numberText (number : Float) : String := numberLayout.text number

end Stencil
