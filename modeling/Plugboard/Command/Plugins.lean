import Plugboard.Command.Report
import Plugboard.Forum.Boot

/-!
# Commands on plugins

Lists the plugins of a forum, the description of one, and the hooks that it publishes.
-/

namespace Plugboard.Command

/-- A plugin as it is listed. -/
structure PluginRow where
  /-- The name that it is known by. -/
  name : String
  /-- Whether it is external, internal or disabled. -/
  status : String
  /-- Its distribution. -/
  package : String
  /-- The version of its distribution. -/
  version : String
  deriving Repr, DecidableEq

namespace PluginRow

/-- The headings of a list of plugins. -/
def headings : List String := ["Name", "Status", "Package", "Version"]

/-- The cells of a row. -/
def cells (r : PluginRow) : List String := [r.name, r.status, r.package, r.version]

/-- A row in serialized form. -/
def toJson (r : PluginRow) : Json :=
  .obj [("name", .str r.name), ("status", .str r.status), ("package", .str r.package),
    ("version", .str r.version)]

/-- The row of a plugin of a manager. -/
def ofName (m : Manager) (status name : String) : PluginRow :=
  let d := m.metadata? name
  { name, status
    package := (d.map (·.packageName)).getD ""
    version := (d.map (·.version)).getD "" }

end PluginRow

/-- The plugins of a forum: the external ones, the internal ones if asked for, the disabled ones. -/
def pluginRows (f : Forum) (withInternal : Bool) : List PluginRow :=
  f.manager.names.map (.ofName f.manager "external") ++
    (if withInternal then f.manager.internalNames.map (.ofName f.manager "internal") else []) ++
    (f.manager.disabled.map (·.name)).map (.ofName f.manager "disabled")

/-- A hook as it is listed. -/
structure HookRow where
  /-- The hook. -/
  hook : String
  /-- The parameters that it offers. -/
  arguments : String
  /-- The plugins that implement it. -/
  implementations : String
  deriving Repr, DecidableEq

namespace HookRow

/-- The headings of a list of hooks. -/
def headings : List String := ["Hook", "Arguments", "Implementations"]

/-- The cells of a row. -/
def cells (r : HookRow) : List String := [r.hook, r.arguments, r.implementations]

/-- A row in serialized form. -/
def toJson (r : HookRow) : Json :=
  .obj [("hook", .str r.hook), ("arguments", .str r.arguments),
    ("implementations", .str r.implementations)]

/-- The row of a hook. -/
def ofCaller (c : HookCaller) : HookRow :=
  { hook := c.name
    arguments := Text.joinWith ", " ((c.spec?.map (·.params)).getD [])
    implementations := Text.joinWith ", " c.plugins }

end HookRow

/-- The hooks that a forum publishes. -/
def hookRows (f : Forum) : Except AppError (List HookRow) :=
  f.manager.registry.specs.names.mapM fun name =>
    ((f.manager.hook name).map HookRow.ofCaller).mapError (·.toAppError)

/-- What to do with the plugins of a forum. -/
inductive PluginsCommand where
  /-- List them. -/
  | list (withInternal : Bool)
  /-- Show the description of one. -/
  | info (name : String)
  /-- List the hooks. -/
  | hooks
  deriving Repr, DecidableEq

namespace PluginsCommand

/-- The report of a command on a forum. -/
def report (format : Format) (f : Forum) : PluginsCommand → Except AppError (List String)
  | .list withInternal =>
    .ok (listLines format PluginRow.headings
      ((pluginRows f withInternal).map fun r => (r.cells, r.toJson)))
  | .info name =>
    match f.manager.metadata? name with
    | some d => .ok (itemLines format d.toJson)
    | none => .error (.notFound ("No distribution metadata for plugin '" ++ name ++ "'"))
  | .hooks => do
    let rows ← hookRows f
    return listLines format HookRow.headings (rows.map fun r => (r.cells, r.toJson))

end PluginsCommand

end Plugboard.Command
