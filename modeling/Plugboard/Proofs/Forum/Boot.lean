import Plugboard.Proofs.Forum.Staff

/-!
# Setting up the forum

Making a forum fails for one reason alone, the tag of the project (`create_cases`). After that
nothing can go wrong. The folder of plugins may hold anything: all that the forum can make of an
entry point is the portal (`factory?_resolver`), so discovery leaves modules and portals behind and
nothing else (`Staffed.discover`), and these never fail (`Established.invoke`). So every hook that
is fired gives results, stage after stage (`fire_ok`, `andThen_fire`), and what the forum keeps of
them is known: the modules answer first, each once, and then the portal once for each name that it
is bound to.
-/

namespace Plugboard

namespace Forum

open Manager

/-! ## Discovery -/

/-- All that the forum can make of an entry point is the portal. -/
theorem factory?_resolver {e : EntryPoint} {factory : Factory}
    (h : resolver.factory? e = some factory) :
    factory = .fresh (line Portal.entryPoint) (Portal.plugin {}) := by
  obtain ⟨value, hmem⟩ := Resolver.mem_factories h
  have hone : resolver.factories =
      [(Text.trim Portal.entryPointValue,
        .fresh (line Portal.entryPoint) (Portal.plugin {}))] := rfl
  rw [hone, List.mem_singleton] at hmem
  exact congrArg (·.2) hmem

/-- Discovery is a load pass or nothing. -/
theorem discover_state (files : Files) (s : PluginSettings) (m : Manager) :
    (discover files s m).state =
      if s.autoLoad then (m.load files s.entryPointGroup none).state else m := by
  rw [discover]
  split <;> rfl

/-- A manager with the forum's specifications, some of the forum's modules, and the portal under
    some names. -/
structure Established (own : List CoreModule) (guests : List String) (m : Manager) : Prop where
  coherent : m.Coherent
  specs_eq : m.registry.specs = specTable
  roster_eq : m.roster = staff own guests

namespace Staffed

variable {directory : String} {posts : List Post} {blocked : List String} {m : Manager}

/-- The load pass of a forum. -/
theorem load_eq (h : Staffed directory posts blocked m) (files : Files) (group : String) :
    (m.load files group none).state = (m.loadAll resolver
      (visited group none (Distribution.scan files directory).result)).state := by
  simp [Manager.load, h.discovery_eq, Source.distributions]

/-- Whatever the folder of plugins holds, a load pass adds nothing but the portal. -/
theorem load {own : List CoreModule} (h : Staffed directory (own.map CoreModule.post) blocked m)
    (files : Files) (group : String) :
    ∃ guests, Established own guests (m.load files group none).state := by
  have hm := h.genuine.coherent
  have hn := (h.genuine.load files group none).coherent
  obtain ⟨new, hgrows, hstems⟩ := hm.loadAll_stems resolver
    (visited group none (Distribution.scan files directory).result)
  rw [← h.load_eq] at hgrows
  -- what was added was made by the one factory that there is
  have hportal : ∀ b ∈ new, b.plugin.toPluginDef = Portal.plugin {} := by
    intro b hb
    obtain ⟨point, -, hfrom⟩ := hstems b hb
    obtain ⟨supply, later, hres⟩ := hfrom.resolves
    rcases Resolver.resolve_cases hres with ⟨hfactory, -⟩ | ⟨line, d, hfactory, hp, -⟩
    · cases factory?_resolver hfactory
    · cases factory?_resolver hfactory
      rw [hp]
      rfl
  -- so the roster grows by portals, each under its own name
  refine ⟨new.map (·.name), hn, hgrows.specs_eq.trans h.specs_eq, ?_⟩
  rw [hgrows.roster_eq hm hn, h.roster_eq, staff, List.map_map]
  refine congrArg (_ ++ ·) (List.map_congr_left fun b hb => ?_)
  rw [hportal b hb]
  rfl

/-- So discovery adds nothing but the portal, be it a load pass or nothing. -/
theorem discover {own : List CoreModule}
    (h : Staffed directory (own.map CoreModule.post) blocked m) (files : Files)
    (s : PluginSettings) : ∃ guests, Established own guests (Forum.discover files s m).state := by
  rw [discover_state]
  split
  · exact h.load files s.entryPointGroup
  · refine ⟨[], h.genuine.coherent, h.specs_eq, ?_⟩
    rw [h.roster_eq, staff, List.map_nil, List.append_nil]

end Staffed

namespace Established

variable {own : List CoreModule} {guests : List String} {m : Manager}
  (h : Established own guests m)
include h

/-- The names of the external plugins are those of the guests. -/
theorem names_eq : m.names = guests := by
  rw [h.coherent.names_eq_roster, h.roster_eq, filter_external_staff, List.map_map]
  exact List.map_id guests

/-- The internal plugins are the forum's own modules. -/
theorem internalBindings_eq : (m.internalBindings.map fun b => (b.name, b.plugin.toPluginDef)) =
    own.map fun c => (c.name, c.plugin) := by
  rw [h.coherent.internalBindings_eq_roster, h.roster_eq, filter_internal_staff, List.map_map]
  rfl

/-- A hook of the forum never fails. It gives what the modules answer and then what the portal
    answers, once for each of its names. -/
theorem invoke {hook : String} {params : List String}
    (hhook : (hook, params) ∈ setupHooks ++ templateHooks) {args : Args}
    (hargs : Introduces hook args) : (m.invoke hook args).result =
      .ok (own.flatMap (·.answers hook) ++ guests.flatMap fun _ => Portal.answers hook) := by
  have hspec : m.registry.specs.contains hook = true := by
    rw [h.specs_eq]
    exact contains_specTable hhook
  rw [h.coherent.invoke_roster hspec, h.roster_eq, walk_staff hargs]

end Established

/-! ## Setting up -/

/-- A stage whose hook gives results keeps them. -/
theorem fire_ok {f : Forum} {hook : String} {args : Args} {results : List Json}
    (h : (f.manager.invoke hook args).result = .ok results) (keep : Forum → List Json → Forum) :
    (fire f hook args keep).result = .ok () ∧ (fire f hook args keep).state = keep f results := by
  simp [fire, h]

/-- After a stage that succeeds comes the next. -/
theorem andThen_ok {s : Step Forum (Except AppError Unit)} (h : s.result = .ok ())
    (next : Forum → Step Forum (Except AppError Unit)) :
    (andThen s next).result = (next s.state).result ∧
      (andThen s next).state = (next s.state).state := by
  simp [andThen, h, Step.after]

/-- After a stage that went well, a hook is fired that gives results. -/
theorem andThen_fire {s : Step Forum (Except AppError Unit)} {f : Forum}
    (hs : s.result = .ok () ∧ s.state = f) {hook : String} {args : Args} {results : List Json}
    (h : (f.manager.invoke hook args).result = .ok results) (keep : Forum → List Json → Forum) :
    (andThen s fun g => fire g hook args keep).result = .ok () ∧
      (andThen s fun g => fire g hook args keep).state = keep f results := by
  obtain ⟨hresult, rfl⟩ := hs
  obtain ⟨hfired, hstate⟩ := andThen_ok hresult fun g => fire g hook args keep
  rw [hfired, hstate]
  exact fire_ok h keep

/-- The hooks that are fired while the forum is set up. -/
theorem setup_mem : ("flaskbb_extensions", ["app"]) ∈ setupHooks ++ templateHooks ∧
    ("flaskbb_jinja_directives", ["app"]) ∈ setupHooks ++ templateHooks ∧
    ("flaskbb_request_processors", ["app"]) ∈ setupHooks ++ templateHooks ∧
    ("flaskbb_load_translations", []) ∈ setupHooks ++ templateHooks ∧
    ("flaskbb_additional_setup", ["app", "pluggy"]) ∈ setupHooks ++ templateHooks := by
  decide

/-- Only the hook for blueprints has to be called with the forum. -/
theorem introduces_of_ne {hook : String} (h : hook ≠ "flaskbb_load_blueprints") (args : Args) :
    Introduces hook args :=
  fun hblueprints => absurd hblueprints h

/-- The forum tells its name to whom it introduces itself. -/
theorem introduces_describe {f : Forum} (h : f.settings.plugins.projectName = projectTag)
    (hook : String) : Introduces hook (.ofList [("app", .json f.describe)]) := by
  intro _
  refine ⟨f.describe, rfl, ?_⟩
  have hname : f.describe.get? "name" = some (.str f.settings.plugins.projectName) := rfl
  rw [hname, h]
  rfl

/-- To a hook that is neither about blueprints nor about translations nor about the navigation
    nobody answers. -/
theorem answers_eq_nil {hook : String} (hblueprints : "flaskbb_load_blueprints" ≠ hook)
    (htranslations : "flaskbb_load_translations" ≠ hook)
    (hnavigation : "flaskbb_tpl_before_navigation" ≠ hook) (own : List CoreModule)
    (guests : List String) :
    (own.flatMap (·.answers hook) ++ guests.flatMap fun _ => Portal.answers hook) = [] := by
  have hmodule : ∀ c : CoreModule, c.answers hook = [] := fun c => if_neg hblueprints
  have hportal : Portal.answers hook = [] := by
    unfold Portal.answers
    rw [if_neg hblueprints, if_neg htranslations, if_neg hnavigation]
    rfl
  simp [hmodule, hportal]

/-- What the plugins answer when they are asked for blueprints. -/
theorem answers_blueprints (own : List CoreModule) (guests : List String) :
    (own.flatMap (·.answers "flaskbb_load_blueprints") ++
        guests.flatMap fun _ => Portal.answers "flaskbb_load_blueprints") =
      own.filterMap (·.descriptor?) ++ guests.map fun _ => Portal.descriptor := by
  have hmodule : ∀ c : CoreModule,
      c.answers "flaskbb_load_blueprints" = c.descriptor?.toList := fun c => if_pos rfl
  have hportal : Portal.answers "flaskbb_load_blueprints" =
      [Portal.descriptor] := by
    unfold Portal.answers
    rw [if_pos rfl, if_neg (by decide), if_neg (by decide)]
    rfl
  simp only [hmodule, hportal, List.filterMap_eq_flatMap_toList, List.map_eq_flatMap]

/-- What they answer when they are asked for translations. -/
theorem answers_translations (own : List CoreModule) (guests : List String) :
    (own.flatMap (·.answers "flaskbb_load_translations") ++
        guests.flatMap fun _ => Portal.answers "flaskbb_load_translations") =
      guests.map fun _ => .str "flaskbb_plugin_portal/translations" := by
  have hmodule : ∀ c : CoreModule, c.answers "flaskbb_load_translations" = [] :=
    fun c => if_neg (by decide)
  have hportal : Portal.answers "flaskbb_load_translations" =
      [.str "flaskbb_plugin_portal/translations"] := by
    unfold Portal.answers
    rw [if_neg (by decide), if_pos rfl, if_neg (by decide)]
    rfl
  simp [hmodule, hportal, List.map_eq_flatMap]

/-- Setting up goes well, and keeps what the plugins answer. -/
theorem Established.configure {own : List CoreModule} {guests : List String} {f : Forum}
    (h : Established own guests f.manager)
    (hproject : f.settings.plugins.projectName = projectTag) :
    (Forum.configure f).result = .ok () ∧
      (Forum.configure f).state =
        { f with
          blueprints := own.filterMap (·.descriptor?) ++
            guests.map fun _ => Portal.descriptor
          translations := guests.map fun _ => .str "flaskbb_plugin_portal/translations" } := by
  obtain ⟨-, hdirectives, hprocessors, htranslations, hsetup⟩ := setup_mem
  have hblueprints := h.invoke blueprints_mem (introduces_describe hproject _)
  rw [answers_blueprints] at hblueprints
  have hone : ((fire f "flaskbb_load_blueprints" (.ofList [("app", .json f.describe)])
        fun f results => { f with blueprints := results }).after
          (pendingEvents f.manager)).result = .ok () ∧
      ((fire f "flaskbb_load_blueprints" (.ofList [("app", .json f.describe)])
        fun f results => { f with blueprints := results }).after
          (pendingEvents f.manager)).state = _ :=
    fire_ok hblueprints _
  -- the manager stays the same from hook to hook
  have htwo := andThen_fire hone
    (h.invoke hdirectives (introduces_of_ne (by decide) (.ofList [("app", .json f.describe)])))
    fun f _ => f
  have hthree := andThen_fire htwo
    (h.invoke hprocessors (introduces_of_ne (by decide) (.ofList [("app", .json f.describe)])))
    fun f _ => f
  have hfour := andThen_fire hthree (h.invoke htranslations (introduces_of_ne (by decide) .empty))
    fun f results => { f with translations := results }
  rw [answers_translations] at hfour
  exact andThen_fire hfour
    (h.invoke hsetup (introduces_of_ne (by decide)
      (.ofList [("app", .json f.describe), ("pluggy", .json f.summary)])))
    fun f _ => f

/-! ## The whole boot -/

/-- Plugins are loaded without an error, and none of them has extensions. -/
theorem loadPlugins_ok {s : Settings} (h : Staffed s.plugins.directory [] [] (prepare s).state)
    (files : Files) :
    (loadPlugins files { settings := s, manager := (prepare s).state }).result = .ok () ∧
      (loadPlugins files { settings := s, manager := (prepare s).state }).state =
        { settings := s, manager := (discover files s.plugins (lobby s)).state } := by
  obtain ⟨hmodules, hlobby⟩ := staffed_lobby h
  obtain ⟨guests, hestablished⟩ := hlobby.discover files s.plugins
  -- no plugin of a forum answers the hook for extensions
  have hextensions : ∀ args, ((discover files s.plugins (lobby s)).state.invoke
      "flaskbb_extensions" args).result = .ok [] := by
    intro args
    rw [hestablished.invoke setup_mem.1 (introduces_of_ne (by decide) args),
      answers_eq_nil (by decide) (by decide) (by decide)]
  simp only [lobby] at hextensions ⊢
  simp only [loadPlugins, hmodules, hextensions, and_self]

/-- What becomes of a forum after discovery, whatever that found. -/
theorem create_after_discovery (files : Files) (s : Settings) :
    (s.plugins.projectName ≠ projectTag ∧ (create files s).result =
        .error (PluginError.noHookSpecs s.plugins.projectName specs.description).toAppError) ∨
      (s.plugins.projectName = projectTag ∧
        Staffed s.plugins.directory ((remaining s.plugins).map CoreModule.post)
          s.plugins.disabled (lobby s) ∧
        ∃ guests, Established (remaining s.plugins) guests
            (discover files s.plugins (lobby s)).state ∧
          (create files s).result = .ok
            { settings := s
              manager := (discover files s.plugins (lobby s)).state
              blueprints := (remaining s.plugins).filterMap (·.descriptor?) ++
                guests.map fun _ => Portal.descriptor
              translations := guests.map fun _ => .str "flaskbb_plugin_portal/translations" }) := by
  rcases prepare_cases s with ⟨hproject, hresult⟩ | ⟨hproject, hresult, hstaffed⟩
  · exact .inl ⟨hproject, by simp [create, hresult]⟩
  · obtain ⟨-, hlobby⟩ := staffed_lobby hstaffed
    obtain ⟨guests, hestablished⟩ := hlobby.discover files s.plugins
    refine .inr ⟨hproject, hlobby, guests, hestablished, ?_⟩
    obtain ⟨hloaded, hmanager⟩ := loadPlugins_ok hstaffed files
    -- the two stages after the preparation succeed one after the other
    have hfirst : ((loadPlugins files { settings := s, manager := (prepare s).state }).after
        (prepare s).events).result = .ok () := hloaded
    obtain ⟨hbooted, hforum⟩ := andThen_ok hfirst configure
    have hconfigured := Established.configure
      (f := { settings := s, manager := (discover files s.plugins (lobby s)).state })
      hestablished hproject
    rw [← hmanager] at hconfigured
    simp only [create, hresult, hbooted, hforum]
    simp only [Step.after, hconfigured, Except.map]
    rw [hmanager]

/-- A forum as it was made. -/
structure SetUp (s : Settings) (f : Forum) : Prop where
  settings_eq : f.settings = s
  /-- The internal plugins are the modules that are not disabled, in their order. -/
  internalBindings_eq : (f.manager.internalBindings.map fun b => (b.name, b.plugin.toPluginDef)) =
    (coreModules.filter (·.name ∉ s.plugins.disabled)).map fun c => (c.name, c.plugin)
  /-- Nobody has extensions. -/
  extensions_eq : f.extensions = []
  /-- The blueprints are those of these modules, and then one of the portal for each external
      plugin. -/
  blueprints_eq : f.blueprints =
    (coreModules.filter (·.name ∉ s.plugins.disabled)).filterMap (·.descriptor?) ++
      f.manager.names.map fun _ => Portal.descriptor
  /-- There is one folder of translations for each external plugin. -/
  translations_eq : f.translations =
    f.manager.names.map fun _ => .str "flaskbb_plugin_portal/translations"

/-- Making a forum fails exactly if the tag of the project is not that of the forum's
    specifications, and says so. Otherwise it succeeds, whatever the settings are and whatever the
    folder of plugins holds. -/
theorem create_cases (files : Files) (s : Settings) :
    (s.plugins.projectName ≠ "flaskbb" ∧ (create files s).result =
        .error (PluginError.noHookSpecs s.plugins.projectName specs.description).toAppError) ∨
      (s.plugins.projectName = "flaskbb" ∧
        ∃ f, (create files s).result = .ok f ∧ SetUp s f) := by
  rcases create_after_discovery files s with
    hrefused | ⟨hproject, -, guests, hestablished, hresult⟩
  · exact .inl hrefused
  · have hnames := hestablished.names_eq
    refine .inr ⟨hproject, _, hresult, rfl, hestablished.internalBindings_eq, rfl, ?_, ?_⟩
    · rw [hnames]
      rfl
    · rw [hnames]

/-- A folder of plugins with one package. It advertises the portal twice, the second time under the
    name of a module. -/
def portalFiles : Files where
  root := .folder [("plugins", .folder [("portal.dist-info", .folder [
    ("METADATA", .file "Name: portal\nVersion: 1.0\n".toUTF8),
    ("entry_points.txt", .file ("[flaskbb_plugins]\nportal = flaskbb_plugin_portal\n" ++
      "flaskbb.cli = flaskbb_plugin_portal\n").toUTF8)])])]

/-- With this folder and the settings as they are by default, the modules are set up and one portal;
    under the tag of another project nothing is. -/
theorem create_cases_portal :
    let s : Settings := { plugins := { directory := "plugins" } }
    let other : Settings := { plugins := { projectName := "other", directory := "plugins" } }
    (∃ f, (create portalFiles s).result = .ok f ∧ SetUp s f ∧ f.manager.names = ["portal"] ∧
      f.blueprints = coreModules.filterMap (·.descriptor?) ++ [Portal.descriptor] ∧
      f.translations = [.str "flaskbb_plugin_portal/translations"]) ∧
    (create portalFiles other).result =
      .error (PluginError.noHookSpecs "other" specs.description).toAppError := by
  intro s other
  constructor
  · rcases create_cases portalFiles s with ⟨hproject, -⟩ | ⟨-, f, hf, hsetup⟩
    · exact absurd rfl hproject
    · -- that the folder has one portal is computed; what follows for the forum is not
      have hlists : (create portalFiles s).result.toOption.map (·.manager.names) =
          some ["portal"] := by
        decide +kernel
      rw [hf] at hlists
      have hnames : f.manager.names = ["portal"] := Option.some.inj hlists
      refine ⟨f, hf, hsetup, hnames, ?_, ?_⟩
      · rw [hsetup.blueprints_eq, hnames]
        rfl
      · rw [hsetup.translations_eq, hnames]
        rfl
  · rcases create_cases portalFiles other with ⟨-, hresult⟩ | ⟨hproject, -⟩
    · exact hresult
    · exact absurd hproject (by decide)

end Forum

end Plugboard
