import Plugboard.Config.Settings
import Plugboard.Decimal.Layout
import Plugboard.Keyed

/-!
# Settings from configuration values

Configuration values are read with a will: a text is also given by a truth value or a number, a
truth value also by a number or by a word such as `yes` or `off`, and a record also by an array of
its fields. Settings that are not given have their defaults.
-/

namespace Plugboard.Config

/-- The text that a value gives. -/
def asText? : Json → Option String
  | .str s => some s
  | .bool b => some (if b then "true" else "false")
  | .int i => some (toString i)
  | .float x => some (Decimal.plain.text x)
  | _ => none

/-- The words for a truth value. -/
def boolWords : List (String × Bool) :=
  [("1", true), ("true", true), ("on", true), ("yes", true), ("0", false), ("false", false),
    ("off", false), ("no", false)]

/-- The truth value that a value gives. -/
def asBool? : Json → Option Bool
  | .bool b => some b
  | .int i => some (i ≠ 0)
  | .float x => some (x != 0)
  | .str s => boolWords.lookup (Text.lowercase s)
  | _ => none

/-- The texts that a value gives. -/
def asTexts? : Json → Option (List String)
  | .arr items => items.mapM asText?
  | _ => none

/-- The value given for a field, or its default where there is none. `i` is the field's place among
    the fields of its record. -/
def fieldOr {α : Type} (default : α) (record : Json) (i : Nat) (name : String)
    (read? : Json → Option α) : Option α :=
  match record with
  | .obj fields =>
    match Keyed.get? name fields with
    | some v => read? v
    | none => some default
  | .arr items =>
    match items[i]? with
    | some v => read? v
    | none => some default
  | _ => none

/-- How plugins are found, from a configuration value. -/
def pluginSettings? (v : Json) : Option PluginSettings := do
  let d : PluginSettings := {}
  return {
    projectName := ← fieldOr d.projectName v 0 "project_name" asText?
    entryPointGroup := ← fieldOr d.entryPointGroup v 1 "entry_point_group" asText?
    directory := ← fieldOr d.directory v 2 "directory" asText?
    autoLoad := ← fieldOr d.autoLoad v 3 "auto_load" asBool?
    disabled := ← fieldOr d.disabled v 4 "disabled" asTexts? }

/-- How events are logged, from a configuration value. -/
def loggingSettings? (v : Json) : Option LoggingSettings := do
  let d : LoggingSettings := {}
  return {
    level := ← fieldOr d.level v 0 "level" asText?
    format := ← fieldOr d.format v 1 "format" asText? }

/-- All settings, from a configuration value. -/
def settings? (v : Json) : Option Settings := do
  return {
    plugins := ← fieldOr {} v 0 "plugins" pluginSettings?
    logging := ← fieldOr {} v 1 "logging" loggingSettings? }

end Plugboard.Config
