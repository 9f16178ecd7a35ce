import Plugboard.Error
import Plugboard.Text.Blank
import Plugboard.Text.Lowercase

/-!
# Settings

What an administrator decides: how plugins are found and which of them are disabled, and how events
are logged. Every setting has a default, so a record may leave out any of them.

`validate` checks what the types of the settings do not.
-/

namespace Plugboard

/-- How plugins are found. -/
structure PluginSettings where
  /-- The tag that hook specifications must carry. -/
  projectName : String := "flaskbb"
  /-- The group of the entry points that are plugins. -/
  entryPointGroup : String := "flaskbb_plugins"
  /-- The folder in which distributions are installed. -/
  directory : String := "./plugins"
  /-- Whether plugins are loaded at the start. -/
  autoLoad : Bool := true
  /-- The names of the plugins that are blocked. -/
  disabled : List String := []
  deriving Repr, DecidableEq

/-- How events are logged. -/
structure LoggingSettings where
  /-- The least level that is logged. -/
  level : String := "info"
  /-- The form of a log line. -/
  format : String := "pretty"
  deriving Repr, DecidableEq

/-- All settings. -/
structure Settings where
  /-- How plugins are found. -/
  plugins : PluginSettings := {}
  /-- How events are logged. -/
  logging : LoggingSettings := {}
  deriving Repr, DecidableEq

namespace PluginSettings

/-- Settings in serialized form. -/
def toJson (s : PluginSettings) : Json :=
  .obj [("project_name", .str s.projectName), ("entry_point_group", .str s.entryPointGroup),
    ("directory", .str s.directory), ("auto_load", .bool s.autoLoad),
    ("disabled", .texts s.disabled)]

/-- Settings from their serialized form. -/
def ofJson : Json → Json.Decoded PluginSettings
  | .obj fields => do
    let autoLoad? ← Json.field? fields "auto_load" Json.asBool
    let directory? ← Json.field? fields "directory" Json.asText
    let disabled? ← Json.field? fields "disabled" (Json.asList Json.asText)
    let group? ← Json.field? fields "entry_point_group" Json.asText
    let project? ← Json.field? fields "project_name" Json.asText
    let d : PluginSettings := {}
    return {
      projectName := project?.getD d.projectName
      entryPointGroup := group?.getD d.entryPointGroup
      directory := directory?.getD d.directory
      autoLoad := autoLoad?.getD d.autoLoad
      disabled := disabled?.getD d.disabled }
  | .arr items => do
    let d : PluginSettings := {}
    let projectName ← Json.itemOr d.projectName items 0 Json.asText
    let entryPointGroup ← Json.itemOr d.entryPointGroup items 1 Json.asText
    let directory ← Json.itemOr d.directory items 2 Json.asText
    let autoLoad ← Json.itemOr d.autoLoad items 3 Json.asBool
    let disabled ← Json.itemOr d.disabled items 4 (Json.asList Json.asText)
    Json.atMost 5 items
    return { projectName, entryPointGroup, directory, autoLoad, disabled }
  | v => .error (.wrongType v "struct PluginConfig")

end PluginSettings

namespace LoggingSettings

/-- The levels that there are. -/
def levels : List String := ["trace", "debug", "info", "warn", "error"]

/-- The forms of a log line that there are. -/
def formats : List String := ["json", "pretty"]

/-- Settings in serialized form. -/
def toJson (s : LoggingSettings) : Json :=
  .obj [("level", .str s.level), ("format", .str s.format)]

/-- Settings from their serialized form. -/
def ofJson : Json → Json.Decoded LoggingSettings
  | .obj fields => do
    let format? ← Json.field? fields "format" Json.asText
    let level? ← Json.field? fields "level" Json.asText
    let d : LoggingSettings := {}
    return { level := level?.getD d.level, format := format?.getD d.format }
  | .arr items => do
    let d : LoggingSettings := {}
    let level ← Json.itemOr d.level items 0 Json.asText
    let format ← Json.itemOr d.format items 1 Json.asText
    Json.atMost 2 items
    return { level, format }
  | v => .error (.wrongType v "struct LoggingConfig")

/-- Refuses a setting that is none of those there are. -/
def checkChoice (setting : String) (known : List String) (given compared : String) :
    Except AppError Unit :=
  if known.contains compared then .ok ()
  else .error (.validation
    (setting ++ " '" ++ given ++ "' is not one of " ++ Text.quoteList known))

/-- Refuses an unknown level or form. Levels may be written in capital letters. -/
def validate (s : LoggingSettings) : Except AppError Unit := do
  checkChoice "logging.level" levels s.level (Text.asciiLowercase s.level)
  checkChoice "logging.format" formats s.format s.format

end LoggingSettings

namespace Settings

/-- Settings in serialized form. -/
def toJson (s : Settings) : Json :=
  .obj [("plugins", s.plugins.toJson), ("logging", s.logging.toJson)]

/-- Settings from their serialized form. -/
def ofJson : Json → Json.Decoded Settings
  | .obj fields => do
    let logging? ← Json.field? fields "logging" LoggingSettings.ofJson
    let plugins? ← Json.field? fields "plugins" PluginSettings.ofJson
    return { plugins := plugins?.getD {}, logging := logging?.getD {} }
  | .arr items => do
    let plugins ← Json.itemOr {} items 0 PluginSettings.ofJson
    let logging ← Json.itemOr {} items 1 LoggingSettings.ofJson
    Json.atMost 2 items
    return { plugins, logging }
  | v => .error (.wrongType v "struct AppConfig")

/-- Refuses settings with which the application cannot work. -/
def validate (s : Settings) : Except AppError Unit :=
  if Text.isBlankText s.plugins.projectName then
    .error (.validation "plugins.project_name must not be empty")
  else if Text.isBlankText s.plugins.entryPointGroup then
    .error (.validation "plugins.entry_point_group must not be empty")
  else match s.plugins.disabled.find? Text.isBlankText with
    | some name =>
      .error (.validation ("plugins.disabled contains an empty name: " ++ Text.quote name))
    | none => s.logging.validate

end Settings

end Plugboard
