import Stencil.Engine
import Stencil.Json.Reader

/-!
Run configurations and their JSON form. A key that is missing takes its default, a key that appears
twice is refused, and keys that mean nothing are passed over.
-/

namespace Stencil

inductive ConfigError where
  | emptyTag (name : String)
  | unreadable (path : Path)
  | invalid (path : Path)
  | contextNotObject

namespace ConfigError

def message : ConfigError → String
  | .emptyTag name => "tag '" ++ name ++ "' must not be empty"
  | .unreadable path => "could not read config file '" ++ path.toString ++ "'"
  | .invalid path => "invalid config file '" ++ path.toString ++ "'"
  | .contextNotObject => "context must be a JSON object"

end ConfigError

structure RunConfig where
  src : List String := ["**/[!_]*.gel"]
  dest : String := "build"
  context : List (String × Json) := []
  repeats : Entries RepeatSpec := []
  tags : TagSettings := {}
  deriving Inhabited

namespace RunConfig

def defaultFile : Path := .ofString "gelatorc.json"

end RunConfig

namespace Json.Raw

def entries? : Raw → Option (List (String × Raw))
  | .object entries => entries.mapM fun (key, value) => (string? key).map fun key => (key, value)
  | _ => none

def field? (names : List String) (entries : List (String × Raw)) : Option (Option Raw) :=
  match entries.filter fun (key, _) => key ∈ names with
  | [] => some none
  | [(_, value)] => some (some value)
  | _ => none

def text? : Raw → Option String
  | .string body => string? body
  | _ => none

def optionalText? : Raw → Option (Option String)
  | .null => some none
  | .string body => (string? body).map some
  | _ => none

def texts? : Raw → Option (List String)
  | .array items => items.mapM text?
  | _ => none

end Json.Raw

namespace TagSettings

open Json (Raw)

def ofTexts : List (Option String) → TagSettings
  | [expressionStart, expressionEnd, controlStart, controlEnd, includeStart, includeEnd] =>
      { expressionStart, expressionEnd, controlStart, controlEnd, includeStart, includeEnd }
  | _ => {}

def toTexts (settings : TagSettings) : List (Option String) :=
  [settings.expressionStart, settings.expressionEnd, settings.controlStart, settings.controlEnd,
    settings.includeStart, settings.includeEnd]

def ofEntries? (entries : List (String × Raw)) : Option TagSettings := do
  let texts ← names.mapM fun name => do
    match ← Raw.field? [name] entries with
    | none => some none
    | some value => value.optionalText?
  return ofTexts texts

/-- Settings from an object, or from an array that lists them in order and may stop early. -/
def ofRaw? : Raw → Option TagSettings
  | .array items =>
      if items.length ≤ names.length then do
        let texts ← items.mapM Raw.optionalText?
        return ofTexts (texts ++ List.replicate (names.length - texts.length) none)
      else none
  | value => do ofEntries? (← value.entries?)

end TagSettings

namespace RepeatSpec

open Json (Raw)

def ofRaw? : Raw → Option RepeatSpec
  | .array [iterable, variableName, filename] =>
      return ⟨← iterable.text?, ← variableName.text?, ← filename.text?⟩
  | .array _ => none
  | value => do
      let entries ← value.entries?
      let iterable ← (← Raw.field? ["array", "iterable"] entries).bind Raw.text?
      let variableName ← (← Raw.field? ["variable"] entries).bind Raw.text?
      let filename ← (← Raw.field? ["filename"] entries).bind Raw.text?
      return { iterable, variableName, filename }

end RepeatSpec

namespace RunConfig

open Json (Raw)

def inner? (value : Raw) : Option Json := Json.ofRaw? (Json.deepest - 1) value

def context? (value : Raw) : Option (List (String × Json)) :=
  match inner? value with
  | some (.object entries) => some entries
  | _ => none

def repeats? (value : Raw) : Option (Entries RepeatSpec) := do
  let entries ← value.entries?
  let specs ← entries.mapM fun (path, spec) => (RepeatSpec.ofRaw? spec).map fun spec => (path, spec)
  return Entries.ofList specs

def setting? {α : Type} (name : String) (entries : List (String × Raw)) (read : Raw → Option α)
    (fallback : α) : Option α := do
  match ← Raw.field? [name] entries with
  | none => some fallback
  | some value => read value

def ofRaw? (value : Raw) : Option RunConfig := do
  let defaults : RunConfig := {}
  let entries ← value.entries?
  let src ← setting? "src" entries Raw.texts? defaults.src
  let dest ← setting? "dest" entries Raw.text? defaults.dest
  let context ← setting? "context" entries context? defaults.context
  let repeats ← setting? "repeat" entries repeats? defaults.repeats
  let others := entries.filter fun (key, _) => key ∉ ["src", "dest", "context", "repeat"]
  let _ ← others.mapM fun (_, value) => inner? value
  let tags ← TagSettings.ofEntries? others
  return { src, dest, context, repeats, tags }

def ofText (path : Path) (text : String) : Except ConfigError RunConfig :=
  match (Raw.read? text.toList).bind ofRaw? with
  | some config => .ok config
  | none => .error (.invalid path)

def toTags (settings : TagSettings) : Except ConfigError Tags :=
  settings.toTags.mapError .emptyTag

end RunConfig

end Stencil
