import Stencil.Config

/-!
Command lines. Words are read from left to right: options may stand anywhere before a lone `--`,
and all other words are patterns. An option has its value in the same word or in the next one, and
may be given once. The first word that asks for something other than a run decides, and so does the
first that cannot be understood.
-/

namespace Stencil

inductive Setting where
  | config
  | dest
  | context
  | expressionStart
  | expressionEnd
  | controlStart
  | controlEnd
  | includeStart
  | includeEnd
  deriving DecidableEq, Repr

namespace Setting

def ofName? (name : String) : Option Setting :=
  [("config", config), ("dest", dest), ("context", context),
    ("expression-start-tag", expressionStart), ("expression-end-tag", expressionEnd),
    ("control-start-tag", controlStart), ("control-end-tag", controlEnd),
    ("include-start-tag", includeStart), ("include-end-tag", includeEnd)].lookup name

def ofLetter? : Char → Option Setting
  | 'c' => some config
  | 'd' => some dest
  | 'C' => some context
  | _ => none

def accepts (setting : Setting) (value : String) : Bool := setting != config || value != ""

end Setting

inductive Question where
  | version
  | help
  deriving DecidableEq, Repr

inductive Word where
  | plain
  | endOfOptions
  | asks (question : Question)
  | sets (setting : Setting) (value : String)
  | expects (setting : Setting)
  | unknown
  deriving DecidableEq, Repr

namespace Word

def ofName (name : String) : Word :=
  if name = "version" then .asks .version
  else if name = "help" then .asks .help
  else
    match Setting.ofName? name with
    | some setting => .expects setting
    | none => .unknown

def ofNameAndValue (name value : String) : Word :=
  match Setting.ofName? name with
  | some setting => .sets setting value
  | none => .unknown

/-- The meaning of the letters after a dash. The first of them decides: what follows a letter that
sets something is its value, with or without `=`. -/
def ofLetters : List Char → Word
  | [] => .plain
  | 'V' :: _ => .asks .version
  | 'h' :: _ => .asks .help
  | letter :: letters =>
      match Setting.ofLetter? letter, letters with
      | none, _ => .unknown
      | some setting, [] => .expects setting
      | some setting, '=' :: value => .sets setting (String.ofList value)
      | some setting, value => .sets setting (String.ofList value)

def ofString (text : String) : Word :=
  match text.toList with
  | ['-', '-'] => .endOfOptions
  | '-' :: '-' :: option =>
      let name := String.ofList (option.takeWhile (· != '='))
      match option.dropWhile (· != '=') with
      | [] => ofName name
      | _ :: value => ofNameAndValue name (String.ofList value)
  | '-' :: letters => ofLetters letters
  | _ => .plain

end Word

structure Arguments where
  patterns : List String := []
  settings : List (Setting × String) := []

namespace Arguments

def value? (arguments : Arguments) (setting : Setting) : Option String :=
  arguments.settings.lookup setting

def give? (arguments : Arguments) (setting : Setting) (value : String) : Option Arguments :=
  if setting.accepts value ∧ (arguments.value? setting).isNone then
    some { arguments with settings := (setting, value) :: arguments.settings }
  else none

def tags (arguments : Arguments) : TagSettings where
  expressionStart := arguments.value? .expressionStart
  expressionEnd := arguments.value? .expressionEnd
  controlStart := arguments.value? .controlStart
  controlEnd := arguments.value? .controlEnd
  includeStart := arguments.value? .includeStart
  includeEnd := arguments.value? .includeEnd

def override (arguments : Arguments) (config : RunConfig) : RunConfig :=
  { config with
    src := if arguments.patterns.isEmpty then config.src else arguments.patterns
    dest := (arguments.value? .dest).getD config.dest
    tags := config.tags.merge arguments.tags }

end Arguments

inductive Request where
  | run (arguments : Arguments)
  | answer (question : Question)
  | misuse

namespace Request

def readFrom (arguments : Arguments) : List String → Request
  | [] => .run arguments
  | word :: words =>
      match Word.ofString word with
      | .plain => readFrom { arguments with patterns := arguments.patterns ++ [word] } words
      | .endOfOptions => .run { arguments with patterns := arguments.patterns ++ words }
      | .asks question => .answer question
      | .unknown => .misuse
      | .sets setting value =>
          match arguments.give? setting value with
          | some arguments => readFrom arguments words
          | none => .misuse
      | .expects setting =>
          match words with
          | [] => .misuse
          | value :: words =>
              if Word.ofString value = .plain then
                match arguments.give? setting value with
                | some arguments => readFrom arguments words
                | none => .misuse
              else .misuse

def ofWords (words : List String) : Request := readFrom {} words

end Request

end Stencil
