import Stencil.Entries
import Stencil.Binary64.Reader

/-!
JSON values. An object keeps its entries in key order, and a number is either an integer or a
binary64 number.
-/

namespace Stencil

inductive Json.Number where
  | integer (value : Int)
  | float (value : Float)

inductive Json where
  | null
  | bool (value : Bool)
  | number (value : Json.Number)
  | string (text : String)
  | array (items : List Json)
  | object (entries : List (String × Json))

namespace Json

def Number.toFloat : Number → Float
  | .integer value => Float.ofInt value
  | .float value => value

instance : Inhabited Json := ⟨.null⟩

def get? (key : String) : Json → Option Json
  | .object entries => Entries.find? key entries
  | _ => none

end Json

end Stencil
