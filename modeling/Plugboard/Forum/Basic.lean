import Plugboard.Config.Settings
import Plugboard.Manager.Load

/-!
# The forum

The forum as far as its plugins are concerned: its settings, its plugins, and what they contributed
when it was set up.
-/

namespace Plugboard

/-- A forum and its plugins. -/
structure Forum where
  /-- Its settings. -/
  settings : Settings
  /-- Its plugins. -/
  manager : Manager
  /-- What plugins contributed as extensions. -/
  extensions : List Json := []
  /-- The blueprints that plugins contributed. -/
  blueprints : List Json := []
  /-- The folders of translations that plugins contributed. -/
  translations : List Json := []

namespace Forum

/-- The version of the forum. -/
def version : String := "0.1.0"

/-- The line of the objects that the forum makes under a name. -/
def line (name : String) : String := "app:" ++ name

/-- The forum as hooks see it. -/
def describe (f : Forum) : Json :=
  .object [("name", .str f.settings.plugins.projectName), ("version", .str version),
    ("config", f.settings.toJson)]

/-- The names of the external, the internal and the disabled plugins. -/
def summary (f : Forum) : Json :=
  .object [("external", .texts f.manager.names), ("internal", .texts f.manager.internalNames),
    ("disabled", .texts (f.manager.disabled.map (·.name)))]

/-- The packages of the disabled plugins. -/
def disabledPackages (f : Forum) : List String :=
  f.manager.disabled.filterMap (·.plugin.package?)

/-- Calls a template hook as templates do: an unknown one gives the empty text. -/
def templateHook (f : Forum) (name : String) (args : Args) : Traced (Except AppError String) :=
  let answer := f.manager.templateHook name args true
  { result := answer.result.mapError (·.toAppError), events := answer.events }

/-- The plugin bound to a name that must be bound. -/
def requirePlugin (f : Forum) (name : String) : Except AppError Plugin :=
  match f.manager.plugin? name with
  | some p => .ok p
  | none => .error (.notFound ("Plugin '" ++ name ++ "' not found"))

end Forum

end Plugboard
