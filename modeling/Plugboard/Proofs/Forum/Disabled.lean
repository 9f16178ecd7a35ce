import Plugboard.Proofs.Forum.Listing
import Plugboard.Proofs.Manager.Interchange

/-!
# The disabled names are a set

The settings list the names of the disabled plugins, and a forum blocks them in the order of the
list. Neither that order nor a repetition makes a difference. Two lists of the same names lead to
interchangeable managers before discovery (`interchangeable_lobby`), so that discovery finds and
binds the same plugins, and hooks give the same results (`create_disabled_set`).
-/

namespace Plugboard

/-- The settings with another list of disabled plugins. -/
def Settings.withDisabled (s : Settings) (names : List String) : Settings :=
  { s with plugins := { s.plugins with disabled := names } }

namespace Forum

open Manager

/-- To block a list of names is to make a call for each. -/
theorem blockAll_state (m : Manager) (names : List String) :
    (blockAll m names).state = (m.calls (names.map .setBlocked)).2 := by
  induction names generalizing m with
  | nil => rfl
  | cons name rest ih => exact ih (m.setBlocked name).state

/-- The modules that stay do not depend on the order of the disabled names. -/
theorem remaining_congr {s t : PluginSettings}
    (hnames : ∀ name, name ∈ t.disabled ↔ name ∈ s.disabled) : remaining t = remaining s :=
  List.filter_congr fun c _ => by simp only [hnames]

/-- Before discovery, forums with the same disabled names are interchangeable. -/
theorem interchangeable_lobby {s : Settings}
    (h : Staffed s.plugins.directory [] [] (prepare s).state) {names : List String}
    (hnames : ∀ name, name ∈ names ↔ name ∈ s.plugins.disabled) :
    (lobby s).Interchangeable (lobby (s.withDisabled names)) := by
  -- up to the first name that is blocked the two forums are one
  have hstart : (prepare (s.withDisabled names)).state = (prepare s).state := rfl
  have hmodules : (registerModules (prepare s).state coreModules).state.Coherent :=
    (staffed_modules h).2.genuine.coherent
  rw [lobby, lobby, hstart, blockAll_state, blockAll_state]
  exact interchangeable_setBlocked hmodules fun name => (hnames name).symm

/-- Discovery does not tell interchangeable managers apart. -/
theorem interchangeable_discover {m n : Manager} (h : m.Interchangeable n) (files : Files)
    {s t : PluginSettings} (hauto : t.autoLoad = s.autoLoad)
    (hgroup : t.entryPointGroup = s.entryPointGroup) :
    (discover files s m).state.Interchangeable (discover files t n).state := by
  rw [discover_state, discover_state, hauto, hgroup]
  split
  · exact (h.load files s.entryPointGroup none).2
  · exact h

/-- Discovery blocks nothing and frees nothing. -/
theorem Staffed.isBlocked_discover_iff {directory : String} {posts : List Post}
    {blocked : List String} {m : Manager} (h : Staffed directory posts blocked m) (files : Files)
    (s : PluginSettings) (name : String) :
    (Forum.discover files s m).state.isBlocked name = true ↔ name ∈ blocked := by
  rw [discover_state]
  split
  · exact h.isBlocked_load_iff files s.entryPointGroup name
  · exact h.isBlocked_iff name

/-- Forums with the same plugins, which contributed the same. -/
structure SamePlugins (f g : Forum) : Prop where
  /-- The same bindings in the same order, external and internal ones, apart and together. -/
  externalBindings_eq : g.manager.externalBindings = f.manager.externalBindings
  internalBindings_eq : g.manager.internalBindings = f.manager.internalBindings
  bindings_eq : g.manager.registry.bindings = f.manager.registry.bindings
  /-- The same blocked names, for all plugins and for internal ones. -/
  isBlocked_eq : g.manager.isBlocked = f.manager.isBlocked
  mem_internalBlocked_iff : ∀ name,
    name ∈ g.manager.internalBlocked ↔ name ∈ f.manager.internalBlocked
  /-- The same handlers for every hook, in the same order. -/
  impls_eq : ∀ hook, g.manager.registry.hooks.impls hook = f.manager.registry.hooks.impls hook
  /-- The same plugins found and described, and the same ones disabled. -/
  found_eq : g.manager.found = f.manager.found
  metadata_eq : g.manager.metadata = f.manager.metadata
  disabled_eq : g.manager.disabled = f.manager.disabled
  /-- The same contributions. -/
  blueprints_eq : g.blueprints = f.blueprints
  translations_eq : g.translations = f.translations
  extensions_eq : g.extensions = f.extensions

/-- A forum is made whatever the folder of plugins holds, and is the same for every list of the same
    disabled names. These are the names that it blocks. -/
theorem create_disabled_set (files : Files) {s : Settings}
    (hproject : s.plugins.projectName = "flaskbb") {names : List String}
    (hnames : ∀ name, name ∈ names ↔ name ∈ s.plugins.disabled) :
    ∃ f g, (create files s).result = .ok f ∧
      (create files (s.withDisabled names)).result = .ok g ∧ SamePlugins f g ∧
      ∀ name, f.manager.isBlocked name = true ↔ name ∈ s.plugins.disabled := by
  rcases create_after_discovery files s with
    ⟨hrefused, -⟩ | ⟨-, hlobby, guests, hestablished, hresult⟩
  · exact absurd hproject hrefused
  rcases create_after_discovery files (s.withDisabled names) with
    ⟨hrefused, -⟩ | ⟨-, -, guests', hestablished', hresult'⟩
  · exact absurd hproject hrefused
  -- after blocking the managers cannot be told apart, and discovery treats them alike
  have hsame : (discover files s.plugins (lobby s)).state.Interchangeable
      (discover files (s.withDisabled names).plugins (lobby (s.withDisabled names))).state :=
    interchangeable_discover (interchangeable_lobby (staffed_prepare hproject) hnames) files rfl rfl
  -- the portal is bound to the same names, and the same modules stay
  have hguests : guests' = guests := by
    rw [← hestablished'.names_eq, hsame.names_eq, hestablished.names_eq]
  have hmodules : remaining (s.withDisabled names).plugins = remaining s.plugins :=
    remaining_congr hnames
  refine ⟨_, _, hresult, hresult', ⟨hsame.externalBindings_eq, hsame.internalBindings_eq,
    hsame.bindings_eq, hsame.isBlocked_eq, hsame.mem_internalBlocked_iff, hsame.impls_eq,
    hsame.found_eq, hsame.metadata_eq, hsame.disabled_eq, ?_, ?_, rfl⟩,
    hlobby.isBlocked_discover_iff files s.plugins⟩
  · simp only [hguests, hmodules]
  · simp only [hguests]

/-- Two modules are disabled, one of them twice in the second list. A plugin of the name of one is
    found, and the portal is bound. -/
theorem create_disabled_set_portal :
    let s : Settings :=
      { plugins := { directory := "plugins", disabled := ["flaskbb.cli", "flaskbb.auth"] } }
    let names := ["flaskbb.auth", "flaskbb.cli", "flaskbb.auth"]
    s.plugins.projectName = "flaskbb" ∧ (∀ name, name ∈ names ↔ name ∈ s.plugins.disabled) ∧
      ∃ f g, (create portalFiles s).result = .ok f ∧
        (create portalFiles (s.withDisabled names)).result = .ok g ∧ SamePlugins f g ∧
        (∀ name, f.manager.isBlocked name = true ↔ name ∈ s.plugins.disabled) ∧
        f.manager.names = ["portal"] ∧ f.manager.disabledNames = ["flaskbb.cli"] := by
  intro s names
  have hnames : ∀ name, name ∈ names ↔ name ∈ s.plugins.disabled := by
    intro name
    simp only [names, s, List.mem_cons, List.not_mem_nil, or_false]
    tauto
  obtain ⟨f, g, hf, hg, hsame, hblocked⟩ := create_disabled_set portalFiles (s := s) rfl hnames
  -- which plugins there are is computed for one of the two lists only
  have hlists : (create portalFiles s).result.toOption.map
      (fun f => (f.manager.names, f.manager.disabledNames)) =
        some (["portal"], ["flaskbb.cli"]) := by
    decide +kernel
  rw [hf] at hlists
  obtain ⟨hportal, hdisabled⟩ := Prod.mk.inj (Option.some.inj hlists)
  exact ⟨rfl, hnames, f, g, hf, hg, hsame, hblocked, hportal, hdisabled⟩

end Forum

end Plugboard
