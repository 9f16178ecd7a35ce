import Plugboard.Plugin

/-!
# The portal

A plugin that adds a landing page to the forum: a blueprint, a link before the navigation, and
translations.
-/

namespace Plugboard

/-- The options of the portal. -/
structure PortalSettings where
  /-- The forums whose topics are shown. -/
  forumIds : List Nat := [1]
  /-- How many recent topics are shown. -/
  recentTopics : Nat := 10
  /-- Where the page is found. -/
  urlPrefix : String := "/portal"
  deriving Repr, DecidableEq

namespace PortalSettings

/-- Options in serialized form. -/
def toJson (s : PortalSettings) : Json :=
  .obj [("forum_ids", .arr (s.forumIds.map .nat)), ("recent_topics", .nat s.recentTopics),
    ("url_prefix", .str s.urlPrefix)]

/-- Options from their serialized form. -/
def ofJson : Json → Json.Decoded PortalSettings
  | .obj fields => do
    let d : PortalSettings := {}
    let forumIds? ← Json.field? fields "forum_ids" (Json.asList (Json.asWord "u64"))
    let recentTopics? ← Json.field? fields "recent_topics" (Json.asWord "usize")
    let urlPrefix? ← Json.field? fields "url_prefix" Json.asText
    return {
      forumIds := forumIds?.getD d.forumIds
      recentTopics := recentTopics?.getD d.recentTopics
      urlPrefix := urlPrefix?.getD d.urlPrefix }
  | .arr items => do
    let d : PortalSettings := {}
    let forumIds ← Json.itemOr d.forumIds items 0 (Json.asList (Json.asWord "u64"))
    let recentTopics ← Json.itemOr d.recentTopics items 1 (Json.asWord "usize")
    let urlPrefix ← Json.itemOr d.urlPrefix items 2 Json.asText
    Json.atMost 3 items
    return { forumIds, recentTopics, urlPrefix }
  | v => .error (.wrongType v "struct PortalSettings")

end PortalSettings

namespace Portal

/-- The name of the portal's entry point. -/
def entryPoint : String := "portal"

/-- The value of the portal's entry point. -/
def entryPointValue : String := "flaskbb_plugin_portal"

/-- The package that the portal ships in. -/
def package : String := "flaskbb-plugin-portal"

/-- The folder with the portal's translations. -/
def translations : String := "flaskbb_plugin_portal/translations"

/-- The name of the application that a hook is called for. -/
def appName (args : Args) : String :=
  ((args.json? "app").bind fun app => (app.get? "name").bind Json.str?).getD "flaskbb"

/-- The description of the portal's blueprint. -/
def blueprint (s : PortalSettings) (app : String) : Json :=
  .object [("blueprint", .str "portal"), ("url_prefix", .str s.urlPrefix), ("app", .str app),
    ("forum_ids", .arr (s.forumIds.map .nat)), ("recent_topics", .nat s.recentTopics)]

/-- Answers with the portal's blueprint. -/
def loadBlueprints (s : PortalSettings) : HookImpl where
  hook := "flaskbb_load_blueprints"
  params := ["app"]
  handler args :=
    { result := .ok (some (blueprint s (appName args)))
      events := [.debug "Registering portal blueprint"
        [("app", .text (appName args)), ("url_prefix", .text s.urlPrefix)]] }

/-- Answers with the folder of translations. -/
def loadTranslations : HookImpl := .constant "flaskbb_load_translations" [] (.str translations)

/-- The link to the portal. -/
def link (s : PortalSettings) : String :=
  "<li><a href=\"" ++ s.urlPrefix ++ "\"><i class=\"fa fa-home fa-fw\"></i> Portal</a></li>"

/-- Answers with the link to the portal. -/
def beforeNavigation (s : PortalSettings) : HookImpl :=
  .constant "flaskbb_tpl_before_navigation" [] (.str (link s))

/-- The portal with some options. -/
def plugin (s : PortalSettings) : PluginDef where
  name? := some entryPoint
  package? := some package
  impls := [loadBlueprints s, loadTranslations, beforeNavigation s]

end Portal

end Plugboard
