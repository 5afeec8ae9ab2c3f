import Stencil.Json.Printer
import Stencil.NumberText
import Stencil.Value.Json

/-!
The text of a value in template output: nothing for null, the items of an array with commas
between them, and JSON for a map.
-/

namespace Stencil.Value

mutual

def toText : Value → String
  | .null => ""
  | .bool value => if value then "true" else "false"
  | .number value => numberText value
  | .text content => content
  | .array items => ",".intercalate (itemTexts items)
  | .map entries => (Json.object (entriesToJson entries)).text
  | .function called => "[function " ++ called.name ++ "]"

def itemTexts : List Value → List String
  | [] => []
  | item :: items => item.toText :: itemTexts items

end

end Stencil.Value
