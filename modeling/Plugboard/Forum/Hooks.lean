import Plugboard.Hook.Spec

/-!
# The hooks of the forum

Every extension point that the forum publishes, with the parameters that it offers.
-/

namespace Plugboard.Forum

/-- The tag of the forum's hook specifications. -/
def projectTag : String := "flaskbb"

/-- The hooks fired while the forum is set up. -/
def setupHooks : List (String × List String) := [
  ("flaskbb_extensions", ["app"]),
  ("flaskbb_load_translations", []),
  ("flaskbb_load_migrations", []),
  ("flaskbb_load_blueprints", ["app"]),
  ("flaskbb_request_processors", ["app"]),
  ("flaskbb_errorhandlers", ["app"]),
  ("flaskbb_jinja_directives", ["app"]),
  ("flaskbb_additional_setup", ["app", "pluggy"]),
  ("flaskbb_cli", ["cli"])]

/-- The hooks that templates call. -/
def templateHooks : List (String × List String) := [
  ("flaskbb_tpl_before_navigation", []),
  ("flaskbb_tpl_after_navigation", ["context"]),
  ("flaskbb_tpl_before_registration_form", ["context"]),
  ("flaskbb_tpl_after_registration_form", ["context"]),
  ("flaskbb_tpl_before_user_details_form", ["context"]),
  ("flaskbb_tpl_after_user_details_form", ["context"])]

/-- The forum's specifications. -/
def specs : SpecContainer where
  description := "flaskbb.plugins.spec"
  specs := (setupHooks ++ templateHooks).map fun (name, params) =>
    { name, params, project := projectTag }

/-- Every specification of the forum carries the forum's tag. -/
theorem project_of_mem_specs {spec : HookSpec} (h : spec ∈ specs.specs) :
    spec.project = projectTag := by
  obtain ⟨_, _, rfl⟩ := List.mem_map.1 h
  rfl

end Plugboard.Forum
