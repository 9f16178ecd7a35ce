import Plugboard.Command.Plugins
import Plugboard.Command.Usage
import Plugboard.Config.Load

/-!
# The command line

The program's command line: it shows and checks the settings of a forum, and lists its plugins and
hooks. `run` reads a command line and gives what the program prints and its exit code.
-/

namespace Plugboard.Command

/-- What to do with the settings. -/
inductive ConfigCommand where
  /-- Show them. -/
  | display
  /-- Check them. -/
  | validate
  deriving Repr, DecidableEq

/-- What to do. -/
inductive Action where
  | plugins (command : PluginsCommand)
  | config (command : ConfigCommand)
  deriving Repr, DecidableEq

/-- A request to the program. -/
structure Request where
  /-- The file with the settings. -/
  configPath : String
  /-- The form of the report. -/
  format : Format
  /-- What to do. -/
  action : Action
  deriving Repr, DecidableEq

/-- The option that asks for help. -/
def helpSwitch : Switch := { long := "help", short? := some 'h', effect := .help }

/-- A command without subcommands. -/
def leaf (switches : List Switch) (arguments : List String) : Shape :=
  .mk (switches ++ [helpSwitch]) arguments []

/-- What the program's command line takes. -/
def shape : Shape :=
  .mk
    [{ long := "config", short? := some 'c', effect := .value none },
      { long := "format", short? := some 'f'
        effect := .value (some (Format.choices.map (·.1))) },
      helpSwitch,
      { long := "version", short? := some 'V', effect := .version }]
    []
    [("plugins", .mk [helpSwitch] []
        [("list", leaf [{ long := "internal", effect := .flag }] []),
          ("info", leaf [] ["name"]),
          ("hooks", leaf [] [])]),
      ("config", .mk [helpSwitch] []
        [("show", leaf [] []),
          ("validate", leaf [] [])])]

/-- The file with the settings where none is named. -/
def defaultConfigPath : String := "config/default.toml"

/-- The action that an invocation asks for. -/
def actionOf (i : Invocation) : Except UsageError Action :=
  match i.path with
  | ["plugins", "list"] => .ok (.plugins (.list (i.flags.contains "internal")))
  | ["plugins", "info"] => .ok (.plugins (.info ((Keyed.get? "name" i.values).getD "")))
  | ["plugins", "hooks"] => .ok (.plugins .hooks)
  | ["config", "show"] => .ok (.config .display)
  | ["config", "validate"] => .ok (.config .validate)
  | _ => .error .unknownCommand

/-- The request that a command line makes. -/
def Request.ofWords (words : List String) : Except UsageError Request := do
  let i ← read shape words
  let format := ((Keyed.get? "format" i.values).bind fun v => Format.choices.lookup v).getD .table
  return {
    configPath := (Keyed.get? "config" i.values).getD defaultConfigPath
    format
    action := ← actionOf i }

/-- The lines that describe settings which are valid. -/
def validLines (path : String) (s : Settings) : List String :=
  [successLine ("Configuration '" ++ path ++ "' is valid"),
    pairLine "Project" s.plugins.projectName,
    pairLine "Entry-point group" s.plugins.entryPointGroup,
    pairLine "Plugin directory" s.plugins.directory,
    pairLine "Disabled" (Text.joinWith ", " s.plugins.disabled),
    pairLine "Log level" s.logging.level]

/-- The outcome of a failure; `before` are the lines printed before it. -/
def failed (e : AppError) (before : List String) : Outcome :=
  { code := 1, err := before ++ [failureLine e.text] }

/-- The outcome of a request, given the settings. -/
def Request.perform (r : Request) (files : Files) (s : Settings) : Outcome :=
  match r.action with
  | .config .display => { out := itemLines r.format s.toJson }
  | .config .validate =>
    match s.validate with
    | .ok () => { out := validLines r.configPath s }
    | .error e => failed e [failureLine ("Configuration invalid: " ++ e.text)]
  | .plugins command =>
    match (Forum.create files s).result with
    | .error e => failed e []
    | .ok f =>
      match command.report r.format f with
      | .ok lines => { out := lines }
      | .error e => failed e []

/-- The outcome of a command line. -/
def run (files : Files) (env : List (String × String)) (words : List String) :
    Except UsageError Outcome := do
  let r ← Request.ofWords words
  match Config.load files env [r.configPath] with
  | .error e => return failed e []
  | .ok s => return r.perform files s

end Plugboard.Command
