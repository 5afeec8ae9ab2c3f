/-!
Tag delimiters. A template has three kinds of tags, each with a text that opens it and a text that
closes it; none of the six texts is empty. Settings leave some of them open, and those fall back
to the defaults.
-/

namespace Stencil

structure Delimiter where
  chars : List Char
  chars_ne_nil : chars ≠ [] := by decide

namespace Delimiter

def text (delimiter : Delimiter) : String := String.ofList delimiter.chars

def ofString? (text : String) : Option Delimiter :=
  if filled : text.toList ≠ [] then some ⟨text.toList, filled⟩ else none

end Delimiter

inductive TagKind where
  | expression
  | control
  | include
  deriving DecidableEq, Repr

def TagKind.text : TagKind → String
  | .expression => "expression"
  | .control => "control"
  | .include => "include"

structure Tags where
  expressionStart : Delimiter := ⟨['[', '['], by decide⟩
  expressionEnd : Delimiter := ⟨[']', ']'], by decide⟩
  controlStart : Delimiter := ⟨['[', '!'], by decide⟩
  controlEnd : Delimiter := ⟨['!', ']'], by decide⟩
  includeStart : Delimiter := ⟨['[', '@'], by decide⟩
  includeEnd : Delimiter := ⟨['@', ']'], by decide⟩

namespace Tags

instance : Inhabited Tags := ⟨{}⟩

def start (tags : Tags) : TagKind → List Char
  | .expression => tags.expressionStart.chars
  | .control => tags.controlStart.chars
  | .include => tags.includeStart.chars

def stop (tags : Tags) : TagKind → List Char
  | .expression => tags.expressionEnd.chars
  | .control => tags.controlEnd.chars
  | .include => tags.includeEnd.chars

theorem start_ne_nil (tags : Tags) (kind : TagKind) : tags.start kind ≠ [] := by
  cases kind
  · exact tags.expressionStart.chars_ne_nil
  · exact tags.controlStart.chars_ne_nil
  · exact tags.includeStart.chars_ne_nil

theorem stop_ne_nil (tags : Tags) (kind : TagKind) : tags.stop kind ≠ [] := by
  cases kind
  · exact tags.expressionEnd.chars_ne_nil
  · exact tags.controlEnd.chars_ne_nil
  · exact tags.includeEnd.chars_ne_nil

end Tags

structure TagSettings where
  expressionStart : Option String := none
  expressionEnd : Option String := none
  controlStart : Option String := none
  controlEnd : Option String := none
  includeStart : Option String := none
  includeEnd : Option String := none
  deriving DecidableEq, Inhabited

namespace TagSettings

def names : List String :=
  ["expressionStartTag", "expressionEndTag", "controlStartTag", "controlEndTag",
    "includeStartTag", "includeEndTag"]

/-- Settings of the second record win. -/
def merge (settings later : TagSettings) : TagSettings where
  expressionStart := later.expressionStart.or settings.expressionStart
  expressionEnd := later.expressionEnd.or settings.expressionEnd
  controlStart := later.controlStart.or settings.controlStart
  controlEnd := later.controlEnd.or settings.controlEnd
  includeStart := later.includeStart.or settings.includeStart
  includeEnd := later.includeEnd.or settings.includeEnd

def pick (setting : Option String) (fallback : Delimiter) (name : String) :
    Except String Delimiter :=
  match setting with
  | none => .ok fallback
  | some text =>
      match Delimiter.ofString? text with
      | some delimiter => .ok delimiter
      | none => .error name

def toTags (settings : TagSettings) : Except String Tags := do
  let defaults : Tags := {}
  let expressionStart ← pick settings.expressionStart defaults.expressionStart "expressionStartTag"
  let expressionEnd ← pick settings.expressionEnd defaults.expressionEnd "expressionEndTag"
  let controlStart ← pick settings.controlStart defaults.controlStart "controlStartTag"
  let controlEnd ← pick settings.controlEnd defaults.controlEnd "controlEndTag"
  let includeStart ← pick settings.includeStart defaults.includeStart "includeStartTag"
  let includeEnd ← pick settings.includeEnd defaults.includeEnd "includeEndTag"
  return ⟨expressionStart, expressionEnd, controlStart, controlEnd, includeStart, includeEnd⟩

def ofTags (tags : Tags) : TagSettings where
  expressionStart := some tags.expressionStart.text
  expressionEnd := some tags.expressionEnd.text
  controlStart := some tags.controlStart.text
  controlEnd := some tags.controlEnd.text
  includeStart := some tags.includeStart.text
  includeEnd := some tags.includeEnd.text

end TagSettings

end Stencil
