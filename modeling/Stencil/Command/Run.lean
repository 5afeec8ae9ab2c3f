import Stencil.Command.Arguments
import Stencil.Command.Help
import Stencil.Command.Includes
import Stencil.Command.Output
import Stencil.Glob.Search

/-!
Runs of the program. A run puts its configuration together, selects templates in path order, and
writes the output of each before it goes on to the next. It ends at the first error, and a template
whose files cannot all be rendered has none of them written.
-/

namespace Stencil

inductive RunError where
  | config (error : ConfigError)
  | contextNotJson
  | notPattern (pattern : String)
  | unreadable (path : Path)
  | template (error : TemplateError)
  | notCreated (path : Path)
  | notWritten (path : Path)

namespace RunError

def message : RunError → String
  | .config error => error.message
  | .contextNotJson => "invalid --context JSON"
  | .notPattern pattern => "invalid glob pattern '" ++ pattern ++ "'"
  | .unreadable path => "could not read '" ++ path.toString ++ "'"
  | .template error => error.message
  | .notCreated path => "could not create '" ++ path.toString ++ "'"
  | .notWritten path => "could not write '" ++ path.toString ++ "'"

end RunError

abbrev Attempt (α : Type) := ExceptT RunError Script α

namespace Command

def orConfigError {α : Type} (result : Except ConfigError α) : Attempt α :=
  ExceptT.mk (pure (result.mapError .config))

def readConfig (path : Path) : Attempt RunConfig := do
  match ← Script.readText path with
  | none => throw (.config (.unreadable path))
  | some text => orConfigError (RunConfig.ofText path text)

def loadConfig (arguments : Arguments) : Attempt RunConfig := do
  let config ←
    match arguments.value? .config with
    | some path => readConfig (.ofString path)
    | none => do
        if (← Script.kindAt RunConfig.defaultFile) == some .file then
          readConfig RunConfig.defaultFile
        else pure {}
  return arguments.override config

def buildContext (arguments : Arguments) (config : RunConfig) : Except RunError Context := do
  let json ←
    match arguments.value? .context with
    | none => pure (.object config.context)
    | some text =>
        match Json.read? text.toList with
        | some json => pure json
        | none => throw .contextNotJson
  match Context.ofJson? json with
  | some context => return context
  | none => throw (.config .contextNotObject)

def selectSources : List String → List Path → Attempt (List Path)
  | [], selected => return selected
  | pattern :: patterns, selected =>
      match Glob.select? pattern with
      | none => throw (.notPattern pattern)
      | some search => do
          let found ← search
          selectSources patterns
            (found.foldl (fun selected path => Path.insertOrdered path selected) selected)

def engineOf (tags : Tags) (repeats : Entries RepeatSpec) : Engine :=
  repeats.foldl (fun engine (path, spec) => engine.addRepeat (.ofString path) spec) { tags }

def createParent (target : Path) : Attempt Unit :=
  match target.parent? with
  | none => pure ()
  | some parent => do
      if !(← Script.createDirectories parent) then throw (.notCreated parent)

def writeFile (dest : Path) (template : Path) (file : RenderedFile) : Attempt Unit := do
  let target := file.target dest
  createParent target
  if !(← Script.writeText target file.body) then throw (.notWritten target)
  Script.report ("Done writing " ++ template.toString ++ " -> " ++ target.toString)

def renderFiles (engine : Engine) (context : Context) (template : Path) :
    Attempt (List RenderedFile) := do
  match ← Script.readText template with
  | none => throw (.unreadable template)
  | some source => do
      let engine ← engine.withIncludes template source
      match ((engine.process Host.none context template source).run.run ()).1 with
      | .ok files => return files
      | .error error => throw (.template error)

def compileTemplate (engine : Engine) (context : Context) (dest template : Path) :
    Attempt Unit := do
  Script.report ("Reading " ++ template.toString)
  let files ← renderFiles engine context template
  files.forM (writeFile dest template)

structure Task where
  config : RunConfig
  tags : Tags
  context : Context
  templates : List Path

namespace Task

def engine (task : Task) : Engine := engineOf task.tags task.config.repeats

def dest (task : Task) : Path := .ofString task.config.dest

end Task

def prepare (arguments : Arguments) : Attempt Task := do
  let config ← loadConfig arguments
  let tags ← orConfigError (RunConfig.toTags config.tags)
  let context ← ExceptT.mk (pure (buildContext arguments config))
  let templates ← selectSources config.src []
  return { config, tags, context, templates }

def run (arguments : Arguments) : Attempt Unit := do
  let task ← prepare arguments
  task.templates.forM (compileTemplate task.engine task.context task.dest)

end Command

structure Outcome where
  exitCode : Nat
  output : String := ""
  error : Option String := none

def Command.execute (words : List String) : Script Outcome :=
  match Request.ofWords words with
  | .answer .version => return { exitCode := 0, output := versionText }
  | .answer .help => return { exitCode := 0, output := helpText }
  | .misuse => return { exitCode := 2, error := some usageText }
  | .run arguments => do
      match ← (Command.run arguments).run with
      | .ok () => return { exitCode := 0 }
      | .error error => return { exitCode := 1, error := some error.message }

end Stencil
