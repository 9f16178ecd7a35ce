import Plugboard.Plugin

/-!
# The forum's own modules

The parts of the forum that are plugins themselves. They are registered as internal plugins before
any other. Each adds a blueprint, but for the command line, which has none.
-/

namespace Plugboard.Forum

/-- A module of the forum. -/
structure CoreModule where
  /-- The name that it is registered under. -/
  name : String
  /-- The name of its blueprint and where that is found. -/
  blueprint? : Option (String × String)
  deriving Repr, DecidableEq

/-- The forum's modules in the order in which they are registered. -/
def coreModules : List CoreModule := [
  ⟨"flaskbb.forum", some ("forum", "/")⟩,
  ⟨"flaskbb.auth", some ("auth", "/auth")⟩,
  ⟨"flaskbb.user", some ("user", "/user")⟩,
  ⟨"flaskbb.management", some ("management", "/admin")⟩,
  ⟨"flaskbb.message", some ("message", "/message")⟩,
  ⟨"flaskbb.cli", none⟩]

namespace CoreModule

/-- The handler that answers with a module's blueprint. -/
def loadBlueprint (blueprint url : String) : HookImpl :=
  .constant "flaskbb_load_blueprints" ["app"]
    (.object [("blueprint", .str blueprint), ("url_prefix", .str url)])

/-- The plugin that a module is. -/
def plugin (m : CoreModule) : PluginDef where
  name? := some m.name
  package? := some "flaskbb"
  impls := (m.blueprint?.map fun (blueprint, url) => loadBlueprint blueprint url).toList

end CoreModule

end Plugboard.Forum
