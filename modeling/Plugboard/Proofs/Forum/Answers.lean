import Plugboard.Forum.Boot
import Plugboard.Proofs.Manager.Roster

/-!
# What the forum's plugins answer

The plugins that a forum can have are its own modules and the portal. Their handlers fit the forum's
specifications (`fits_plugin`, `fits_portal`), so none of them is ever refused for its handlers.
None of them fails, either: called with the forum, a module answers with its blueprint and nothing
else (`walk_module`), the portal with its blueprint, its translations and its link (`walk_portal`).
A hook of a forum therefore gives what its modules answer, in order, and then what the portal
answers, once for each name that it is bound to (`walk_staff`).
-/

namespace Plugboard

/-- An argument that has a value is given. -/
theorem Args.contains_of_json? {args : Args} {name : String} {v : Json}
    (h : args.json? name = some v) : args.contains name = true := by
  rw [json?] at h
  rw [contains]
  cases hget : args.get? name with
  | some value => rfl
  | none =>
    rw [hget] at h
    cases h

namespace Forum

/-! ## Specifications -/

/-- The forum's specifications as a registry keeps them. -/
def specTable : SpecTable := (({} : SpecTable).addAll specs.specs).state

/-- The forum's table has the specification of each of its hooks. -/
theorem get?_specTable : ∀ hook ∈ setupHooks ++ templateHooks,
    specTable.get? hook.1 = some ⟨hook.1, hook.2, projectTag⟩ := by
  decide +kernel

/-- The forum's hooks are known to its table. -/
theorem contains_specTable {hook : String} {params : List String}
    (h : (hook, params) ∈ setupHooks ++ templateHooks) : specTable.contains hook = true := by
  rw [SpecTable.contains, get?_specTable _ h]
  rfl

/-- The handlers of a plugin take no parameters that the forum does not offer. -/
def Fits (d : PluginDef) : Prop :=
  ∀ impl ∈ d.impls, ∀ spec, specTable.get? impl.hook = some spec → spec.Covers impl

/-- A handler fits that takes what its hook offers. -/
theorem covers_of_mem {impl : HookImpl} (h : (impl.hook, impl.params) ∈ setupHooks ++ templateHooks)
    {spec : HookSpec} (hspec : specTable.get? impl.hook = some spec) : spec.Covers impl := by
  rw [get?_specTable _ h] at hspec
  cases hspec
  exact fun _ hparam => hparam

/-- The hook for blueprints is one of the forum's. -/
theorem blueprints_mem : ("flaskbb_load_blueprints", ["app"]) ∈ setupHooks ++ templateHooks := by
  decide

/-- The handlers of a module fit the forum's specifications. -/
theorem fits_plugin (c : CoreModule) : Fits c.plugin := by
  intro impl himpl spec
  -- a module has one handler at most
  obtain ⟨b, -, rfl⟩ : ∃ b, c.blueprint? = some b ∧
      CoreModule.loadBlueprint b.1 b.2 = impl := by
    simpa [CoreModule.plugin] using himpl
  exact covers_of_mem blueprints_mem

/-- So do the handlers of the portal, whatever its settings are. -/
theorem fits_portal (s : PortalSettings) : Fits (Portal.plugin s) := by
  intro impl himpl spec
  -- the portal has three handlers
  have hthree : impl = Portal.loadBlueprints s ∨ impl = Portal.loadTranslations ∨
      impl = Portal.beforeNavigation s := by
    simpa [Portal.plugin] using himpl
  rcases hthree with rfl | rfl | rfl
  · exact covers_of_mem blueprints_mem
  · have htranslations : ("flaskbb_load_translations", []) ∈ setupHooks ++ templateHooks := by
      decide
    exact covers_of_mem htranslations
  · have hnavigation : ("flaskbb_tpl_before_navigation", []) ∈ setupHooks ++ templateHooks := by
      decide
    exact covers_of_mem hnavigation

/-! ## Modules -/

namespace CoreModule

/-- The description of a module's blueprint. -/
def descriptor? (c : CoreModule) : Option Json :=
  c.blueprint?.map fun (blueprint, url) =>
    .object [("blueprint", .str blueprint), ("url_prefix", .str url)]

/-- What a module answers to a hook. -/
def answers (c : CoreModule) (hook : String) : List Json :=
  if "flaskbb_load_blueprints" = hook then c.descriptor?.toList else []

/-- A module as an internal plugin under its own name. -/
def post (c : CoreModule) : Post := ⟨c.name, c.plugin, true⟩

end CoreModule

/-- The arguments of a call of a hook for the forum: if the hook is about blueprints, they tell the
    name of the application. -/
def Introduces (hook : String) (args : Args) : Prop :=
  hook = "flaskbb_load_blueprints" →
    ∃ app, args.json? "app" = some app ∧ (app.get? "name").bind Json.str? = some projectTag

/-- Called with the forum, a module answers with its blueprint or with nothing. -/
theorem walk_module {hook : String} {args : Args} (hargs : Introduces hook args)
    (c : CoreModule) : (walk hook args c.post.handlers).result = .ok (c.answers hook) := by
  -- a module without a blueprint has no handler at all
  cases hblueprint : c.blueprint? with
  | none =>
    have hhandlers : c.post.handlers = [] := by
      simp [Post.handlers, CoreModule.post, CoreModule.plugin, hblueprint]
    have hanswers : c.answers hook = [] := by
      unfold CoreModule.answers CoreModule.descriptor?
      rw [hblueprint, Option.map_none, Option.toList_none, ite_self]
    rw [hhandlers, hanswers]
    rfl
  | some both =>
    obtain ⟨blueprint, url⟩ := both
    have hhandlers : c.post.handlers = [(c.name, CoreModule.loadBlueprint blueprint url)] := by
      simp [Post.handlers, CoreModule.post, CoreModule.plugin, hblueprint]
    unfold CoreModule.answers CoreModule.descriptor?
    rw [hhandlers, hblueprint, Option.map_some, Option.toList_some]
    refine walk_singleton c.name fun hhook => ⟨?_, rfl⟩
    obtain ⟨app, happ, -⟩ := hargs hhook.symm
    exact List.forall_mem_singleton.2 (Args.contains_of_json? happ)

end Forum

/-! ## The portal -/

namespace Portal

/-- The description of the portal's blueprint with the options it has by default. -/
def descriptor : Json :=
  .object [("blueprint", .str "portal"), ("url_prefix", .str "/portal"), ("app", .str "flaskbb"),
    ("forum_ids", .arr [.int 1]), ("recent_topics", .int 10)]

/-- So the portal describes itself to the forum. -/
theorem blueprint_default : blueprint {} Forum.projectTag = descriptor := rfl

/-- What the portal answers to a hook of the forum. -/
def answers (hook : String) : List Json :=
  (if "flaskbb_load_blueprints" = hook then [descriptor] else []) ++
    ((if "flaskbb_load_translations" = hook then
        [.str "flaskbb_plugin_portal/translations"] else []) ++
      if "flaskbb_tpl_before_navigation" = hook then [.str (link {})] else [])

/-- The portal as an external plugin under some name. -/
def post (name : String) : Post := ⟨name, plugin {}, false⟩

/-- A handler that takes the application finds its name in what was passed. -/
theorem appName_restrict {args : Args} {app : Json} {name : String}
    (happ : args.json? "app" = some app) (hname : (app.get? "name").bind Json.str? = some name) :
    appName (args.restrict ["app"]) = name := by
  have hjson : (args.restrict ["app"]).json? "app" = some app := by
    rw [Args.json?, args.get?_restrict, if_pos List.mem_cons_self]
    exact happ
  rw [appName, hjson, Option.bind_some, hname]
  rfl

end Portal

namespace Forum

/-- The portal answers each of its three hooks, and no other. -/
theorem walk_portal {hook : String} {args : Args} (hargs : Introduces hook args) (name : String) :
    (walk hook args (Portal.post name).handlers).result = .ok (Portal.answers hook) := by
  have hblueprints : (walk hook args [(name, Portal.loadBlueprints {})]).result =
      .ok (if "flaskbb_load_blueprints" = hook then [Portal.descriptor] else []) := by
    refine walk_singleton name fun hhook => ?_
    obtain ⟨app, happ, hname⟩ := hargs hhook.symm
    have hanswer : ((Portal.loadBlueprints {}).handler (args.restrict ["app"])).result =
        .ok (some (Portal.blueprint {} (Portal.appName (args.restrict ["app"])))) := rfl
    rw [Portal.appName_restrict happ hname, Portal.blueprint_default] at hanswer
    exact ⟨List.forall_mem_singleton.2 (Args.contains_of_json? happ), hanswer⟩
  -- the other two take no arguments and always answer the same
  have htranslations : (walk hook args [(name, Portal.loadTranslations)]).result =
      .ok (if "flaskbb_load_translations" = hook then
        [.str "flaskbb_plugin_portal/translations"] else []) :=
    walk_singleton name fun _ => ⟨List.forall_mem_nil _, rfl⟩
  have hnavigation : (walk hook args [(name, Portal.beforeNavigation {})]).result =
      .ok (if "flaskbb_tpl_before_navigation" = hook then [.str (Portal.link {})] else []) :=
    walk_singleton name fun _ => ⟨List.forall_mem_nil _, rfl⟩
  exact walk_append hblueprints (walk_append htranslations hnavigation)

/-! ## Modules and portal together -/

/-- The posts of a forum: modules, and the portal under some names. -/
def staff (own : List CoreModule) (guests : List String) : List Post :=
  own.map CoreModule.post ++ guests.map Portal.post

/-- A hook gives what the modules answer, and then what the portal answers under each name. -/
theorem walk_staff {hook : String} {args : Args} (hargs : Introduces hook args)
    (own : List CoreModule) (guests : List String) :
    (walk hook args ((staff own guests).flatMap Post.handlers)).result =
      .ok (own.flatMap (·.answers hook) ++ guests.flatMap fun _ => Portal.answers hook) := by
  rw [staff, List.flatMap_append, List.flatMap_map, List.flatMap_map]
  exact walk_append (walk_flatMap fun c _ => walk_module hargs c)
    (walk_flatMap fun name _ => walk_portal hargs name)

/-- The internal ones of a forum's plugins are its own modules. -/
theorem filter_internal_staff (own : List CoreModule) (guests : List String) :
    (staff own guests).filter (·.internal) = own.map CoreModule.post := by
  have hown : (own.map CoreModule.post).filter (·.internal) = own.map CoreModule.post :=
    List.filter_eq_self.2 (List.forall_mem_map.2 fun _ _ => rfl)
  have hguests : (guests.map Portal.post).filter (·.internal) = [] :=
    List.filter_eq_nil_iff.2 (List.forall_mem_map.2 fun _ _ => Bool.false_ne_true)
  rw [staff, List.filter_append, hown, hguests, List.append_nil]

/-- The external ones are its guests. -/
theorem filter_external_staff (own : List CoreModule) (guests : List String) :
    (staff own guests).filter (!·.internal) = guests.map Portal.post := by
  have hown : (own.map CoreModule.post).filter (!·.internal) = [] :=
    List.filter_eq_nil_iff.2 (List.forall_mem_map.2 fun _ _ => Bool.false_ne_true)
  have hguests : (guests.map Portal.post).filter (!·.internal) = guests.map Portal.post :=
    List.filter_eq_self.2 (List.forall_mem_map.2 fun _ _ => rfl)
  rw [staff, List.filter_append, hown, hguests, List.nil_append]

end Forum

end Plugboard
