import Plugboard.Command.Plugins
import Plugboard.Proofs.Forum.Boot

/-!
# Every plugin is listed once

The names of the external plugins, of the internal ones and of the disabled ones are kept in places
of their own. All the same the three lists have nothing in common: a bound name is internal or not,
and a disabled name is blocked, so that nothing is bound to it (`Parked.nodup_listed`). In a forum
they are also complete. Whatever the folder of plugins holds, an entry point that leads to a plugin
is bound or disabled after the load pass, the latter exactly if its name is disabled in the
settings (`create_lists_once`).
-/

namespace Plugboard

namespace Manager

/-- The names that a host lists: those of the external, the internal and the disabled plugins. -/
def listed (m : Manager) : List String := m.names ++ m.internalNames ++ m.disabledNames

/-- A name is in exactly one of the three lists. -/
def ListsOnce (m : Manager) (name : String) : Prop :=
  (name ∈ m.names ∧ name ∉ m.internalNames ∧ name ∉ m.disabledNames) ∨
    (name ∉ m.names ∧ name ∈ m.internalNames ∧ name ∉ m.disabledNames) ∨
    (name ∉ m.names ∧ name ∉ m.internalNames ∧ name ∈ m.disabledNames)

namespace Coherent

variable {m : Manager} (h : m.Coherent)
include h

/-- The internal names are those of the bindings held internally. -/
theorem internalNames_eq_filter :
    m.internalNames = m.registry.names.filter m.holdsInternal := by
  rw [internalNames, internalBindings, ← h.registry.map_name_bindings, List.filter_map]
  rfl

/-- A name is bound if it is that of an external or an internal plugin. -/
theorem mem_registry_names_iff (name : String) :
    name ∈ m.registry.names ↔ name ∈ m.names ∨ name ∈ m.internalNames := by
  rw [names, h.internalNames_eq_filter, List.mem_filter, List.mem_filter]
  cases m.holdsInternal name <;> simp

/-- A name is bound if it is among the names of the bindings. -/
theorem hasPlugin_iff_mem (name : String) :
    m.hasPlugin name = true ↔ name ∈ m.registry.names := by
  rw [h.hasPlugin_eq, Registry.hasPlugin, Option.isSome_iff_exists]
  exact (h.registry.mem_order_iff name).symm

/-- No name is both external and internal. -/
theorem nodup_names_append : (m.names ++ m.internalNames).Nodup := by
  have hnodup : m.registry.names.Nodup := h.registry.nodup_order
  rw [names, h.internalNames_eq_filter, List.nodup_append]
  refine ⟨hnodup.filter _, hnodup.filter _, fun name hname other hother heq => ?_⟩
  have hexternal := (List.mem_filter.1 hname).2
  have hinternal := (List.mem_filter.1 hother).2
  rw [heq, hinternal] at hexternal
  cases hexternal

end Coherent

/-- Where only load passes disable plugins, no name is listed twice. -/
theorem Parked.nodup_listed {m : Manager} (h : m.Parked) (hrecorded : m.Recorded) :
    m.listed.Nodup := by
  rw [listed, List.nodup_append]
  refine ⟨h.coherent.nodup_names_append, hrecorded.nodup_disabled,
    fun name hname other hother heq => ?_⟩
  subst heq
  -- a disabled name is blocked, and a blocked name is not bound
  obtain ⟨f, hf, rfl⟩ := List.mem_map.1 hother
  have hblocks : m.Blocks f.name := ⟨h.coherent, h.isBlocked f hf⟩
  refine hblocks.not_mem_registry_names ?_
  rw [h.coherent.mem_registry_names_iff]
  exact List.mem_append.1 hname

/-- What is listed without repetition is in one list only. -/
theorem listsOnce_of_mem {m : Manager} (hnodup : m.listed.Nodup) {name : String}
    (hmem : name ∈ m.listed) : m.ListsOnce name := by
  rw [listed, List.nodup_append, List.nodup_append] at hnodup
  obtain ⟨⟨-, -, hbound⟩, -, hdisabled⟩ := hnodup
  -- no two of the three lists have a name in common
  have hexternal : name ∈ m.names → name ∉ m.internalNames ∧ name ∉ m.disabledNames := fun hname =>
    ⟨fun hother => hbound name hname name hother rfl,
      fun hother => hdisabled name (List.mem_append_left _ hname) name hother rfl⟩
  have hinternal : name ∈ m.internalNames → name ∉ m.disabledNames := fun hname hother =>
    hdisabled name (List.mem_append_right _ hname) name hother rfl
  rw [listed, List.mem_append, List.mem_append] at hmem
  rcases hmem with (hname | hname) | hname
  · exact .inl ⟨hname, hexternal hname⟩
  · exact .inr (.inl ⟨fun hother => (hexternal hother).1 hname, hname, hinternal hname⟩)
  · exact .inr (.inr ⟨fun hother => (hexternal hother).2 hname,
      fun hother => hinternal hother hname, hname⟩)

end Manager

namespace Forum

open Manager

/-! ## What becomes of an entry point -/

namespace Staffed

variable {directory : String} {posts : List Post} {blocked : List String} {m : Manager}
  (h : Staffed directory posts blocked m)
include h

/-- Before the load pass nothing is disabled. -/
theorem parked : m.Parked := by
  have hnone : m.disabled = [] := congrArg (·.2.1) h.findings_eq
  refine ⟨h.genuine.coherent, ?_, ?_⟩ <;> rw [hnone] <;> exact fun _ hf => (nomatch hf)

/-- Nor is anything found. -/
theorem recorded : m.Recorded := by
  have hfound : m.found = [] := congrArg (·.1) h.findings_eq
  have hdisabled : m.disabled = [] := congrArg (·.2.1) h.findings_eq
  have hmetadata : m.metadata = [] := congrArg (·.2.2) h.findings_eq
  constructor
  · rw [foundNames, hfound]
    exact List.nodup_nil
  · rw [disabledNames, hdisabled]
    exact List.nodup_nil
  · rw [hmetadata, hfound]
    rfl

/-- A pass blocks nothing and frees nothing. -/
theorem isBlocked_load_iff (files : Files) (group : String) (name : String) :
    (m.load files group none).state.isBlocked name = true ↔ name ∈ blocked := by
  obtain ⟨new, hgrows, -⟩ := h.genuine.coherent.load_grows files group none
  rw [hgrows.isBlocked_eq, h.isBlocked_iff]

variable {files : Files} {group : String} {d : Distribution} {e : EntryPoint}
  (hvisited : (d, e) ∈ visited group none (Distribution.scan files directory).result)
include hvisited

/-- A plugin that is found under a blocked name is disabled. -/
theorem mem_disabledNames_load (hfactory : (resolver.factory? e).isSome = true)
    (hname : e.name ∈ blocked) : e.name ∈ (m.load files group none).state.disabledNames := by
  have hblocks : m.Blocks e.name := ⟨h.genuine.coherent, (h.isBlocked_iff e.name).2 hname⟩
  -- the pass is the first, so nothing was found before
  have hnew : m.hasFound e.name = false := by
    have hnone : m.found = [] := congrArg (·.1) h.findings_eq
    rw [hasFound, hnone]
    rfl
  have hleads : (visited group none (Distribution.scan files directory).result).any
      (resolver.leadsTo e.name ·.2) = true :=
    List.any_eq_true.2 ⟨(d, e), hvisited, Resolver.leadsTo_iff.2 ⟨rfl, hfactory⟩⟩
  have hdisabled := (loadAll_blocked hblocks resolver
    (visited group none (Distribution.scan files directory).result)).2
  rw [hnew, hleads, ← h.load_eq] at hdisabled
  simpa [hasDisabled, disabledNames] using hdisabled

/-- A plugin that is found under any other name is bound, or another one is that has the name. -/
theorem hasPlugin_load (hfactory : (resolver.factory? e).isSome = true) (hempty : e.name ≠ "")
    (hname : e.name ∉ blocked) : (m.load files group none).state.hasPlugin e.name = true := by
  have hallowed : (m.load files group none).state.isBlocked e.name = false := by
    rw [← Bool.not_eq_true, h.isBlocked_load_iff]
    exact hname
  have hsettled := h.genuine.loadAll_settles h.discovery_eq
    (visited group none (Distribution.scan files directory).result) (d, e) hvisited
  rw [← h.load_eq] at hsettled
  -- after the pass the entry point is settled, and only one way is left
  cases hsettled with
  | bound hbound => exact hbound
  | unresolved hnone =>
    rw [hnone] at hfactory
    cases hfactory
  | parked hblocked =>
    rw [hblocked] at hallowed
    cases hallowed
  | refused hfound hfactory hexhausted =>
    -- the plugin is refused, and neither its handlers nor a block can be the reason
    cases factory?_resolver hfactory
    obtain ⟨new, hgrows, -⟩ := h.genuine.coherent.load_grows files group none
    have hcoherent := (h.genuine.load files group none).coherent
    have hspecs : (m.load files group none).state.registry.specs = specTable :=
      hgrows.specs_eq.trans h.specs_eq
    have hasked : (Portal.plugin {}).settledName? e.name = some e.name := if_neg hempty
    rw [← Bool.not_eq_false]
    intro hfree
    exact hexhausted e.name hasked
      (welcomes_of_fits hcoherent hspecs (fits_portal {}) hallowed hfree)

end Staffed

/-! ## The list of plugins -/

/-- Rows that list the plugins of a manager: the external ones in the order of binding, the internal
    ones in the order of binding, the disabled ones. None is listed twice, and none is missing. -/
structure ListsAll (m : Manager) (rows : List Command.PluginRow) : Prop where
  nodup : (rows.map (·.name)).Nodup
  rows_eq : (rows.map fun row => (row.status, row.name)) =
    m.names.map ("external", ·) ++ m.internalNames.map ("internal", ·) ++
      m.disabledNames.map ("disabled", ·)
  names_sublist : m.names.Sublist m.registry.names
  internalNames_sublist : m.internalNames.Sublist m.registry.names
  mem_iff : ∀ name,
    name ∈ rows.map (·.name) ↔ name ∈ m.registry.names ∨ name ∈ m.disabledNames

/-- The rows of the listing bear the names that are listed. -/
theorem map_name_pluginRows (f : Forum) :
    (Command.pluginRows f true).map (·.name) = f.manager.listed := by
  simp [Command.pluginRows, Command.PluginRow.ofName, listed, disabledNames, Function.comp_def]

/-- The rows say of each plugin once what it is. -/
theorem listsAll_pluginRows {f : Forum} (hparked : f.manager.Parked)
    (hrecorded : f.manager.Recorded) : ListsAll f.manager (Command.pluginRows f true) where
  nodup := by
    rw [map_name_pluginRows]
    exact hparked.nodup_listed hrecorded
  rows_eq := by
    simp [Command.pluginRows, Command.PluginRow.ofName, disabledNames, Function.comp_def]
  names_sublist := List.filter_sublist
  internalNames_sublist := by
    rw [hparked.coherent.internalNames_eq_filter]
    exact List.filter_sublist
  mem_iff := by
    intro name
    rw [map_name_pluginRows, listed, List.mem_append, List.mem_append,
      hparked.coherent.mem_registry_names_iff]

/-- After a forum was made with its plugins loaded, every entry point of its group that has a name
    and leads to a plugin is listed once: among the disabled plugins if its name is disabled in the
    settings, else among the external or the internal ones. And the list of its plugins, the
    internal ones among them, has each name once and leaves out none. -/
theorem create_lists_once (files : Files) (s : Settings) {f : Forum}
    (hf : (create files s).result = .ok f) (hauto : s.plugins.autoLoad = true) :
    (∀ d ∈ (Distribution.scan files s.plugins.directory).result, ∀ e ∈ d.entryPoints,
      e.group = s.plugins.entryPointGroup → e.name ≠ "" →
      (∃ supply found, resolver.resolve supply e = .ok found) →
      f.manager.ListsOnce e.name ∧
        (e.name ∈ f.manager.disabledNames ↔ e.name ∈ s.plugins.disabled)) ∧
      ListsAll f.manager (Command.pluginRows f true) := by
  rcases create_after_discovery files s with ⟨-, hrefused⟩ | ⟨-, hlobby, guests, -, hmade⟩
  · rw [hrefused] at hf
    cases hf
  have hmanager : f.manager = ((lobby s).load files s.plugins.entryPointGroup none).state := by
    rw [hmade] at hf
    cases hf
    simp [discover, hauto]
  have hparked : f.manager.Parked := hmanager ▸ hlobby.parked.load files _ none
  have hrecorded : f.manager.Recorded :=
    hmanager ▸ hlobby.recorded.run [.load files s.plugins.entryPointGroup none]
  refine ⟨fun d hd e he hgroup hempty hleads => ?_, listsAll_pluginRows hparked hrecorded⟩
  obtain ⟨supply, found, hres⟩ := hleads
  -- the entry point is one of those that the pass visits
  have hvisited : (d, e) ∈ visited s.plugins.entryPointGroup none
      (Distribution.scan files s.plugins.directory).result :=
    mem_visited_iff.2 ⟨hd, he, by simp [wanted, hgroup]⟩
  have hfactory := (Resolver.leadsTo_iff.1 (Resolver.leadsTo_of_resolve hres)).2
  -- a disabled name is parked in the pass, any other is bound
  by_cases hname : e.name ∈ s.plugins.disabled
  · have hmem := hlobby.mem_disabledNames_load hvisited hfactory hname
    rw [← hmanager] at hmem
    refine ⟨listsOnce_of_mem (hparked.nodup_listed hrecorded) ?_, by simp [hmem, hname]⟩
    exact List.mem_append_right _ hmem
  · have hbound := hlobby.hasPlugin_load hvisited hfactory hempty hname
    rw [← hmanager, hparked.coherent.hasPlugin_iff_mem] at hbound
    have hmem : e.name ∉ f.manager.disabledNames := by
      intro hdisabled
      obtain ⟨finding, hfinding, heq⟩ := List.mem_map.1 hdisabled
      have hblocked := hparked.isBlocked finding hfinding
      rw [heq, hmanager, hlobby.isBlocked_load_iff] at hblocked
      exact hname hblocked
    refine ⟨listsOnce_of_mem (hparked.nodup_listed hrecorded) ?_, by simp [hmem, hname]⟩
    rw [hparked.coherent.mem_registry_names_iff] at hbound
    exact List.mem_append_left _ (List.mem_append.2 hbound)

/-- The package of `portalFiles` as it is read. -/
def portalPackage : Distribution where
  name := "portal"
  version := "1.0"
  headers := ⟨[("Name", "portal"), ("Version", "1.0")]⟩
  entryPoints := [⟨"portal", "flaskbb_plugins", "flaskbb_plugin_portal"⟩,
    ⟨"flaskbb.cli", "flaskbb_plugins", "flaskbb_plugin_portal"⟩]

/-- The module is disabled and so is the plugin of its name; the portal is bound. -/
theorem create_lists_once_portal :
    let s : Settings := { plugins := { directory := "plugins", disabled := ["flaskbb.cli"] } }
    s.plugins.autoLoad = true ∧
      portalPackage ∈ (Distribution.scan portalFiles s.plugins.directory).result ∧
      ∃ f, (create portalFiles s).result = .ok f ∧
        (∀ e ∈ portalPackage.entryPoints, f.manager.ListsOnce e.name ∧
          (e.name ∈ f.manager.disabledNames ↔ e.name ∈ s.plugins.disabled)) ∧
        ListsAll f.manager (Command.pluginRows f true) ∧
        f.manager.names = ["portal"] ∧ f.manager.disabledNames = ["flaskbb.cli"] := by
  intro s
  have hmem : portalPackage ∈ (Distribution.scan portalFiles s.plugins.directory).result := by
    decide +kernel
  have hlists : (create portalFiles s).result.toOption.map
      (fun f => (f.manager.names, f.manager.disabledNames)) =
        some (["portal"], ["flaskbb.cli"]) := by
    decide +kernel
  cases hf : (create portalFiles s).result with
  | error e =>
    rw [hf] at hlists
    cases hlists
  | ok f =>
    rw [hf] at hlists
    obtain ⟨hnames, hdisabled⟩ := Prod.mk.inj (Option.some.inj hlists)
    obtain ⟨hentries, hrows⟩ := create_lists_once portalFiles s hf rfl
    refine ⟨rfl, hmem, f, rfl, fun e he => ?_, hrows, hnames, hdisabled⟩
    -- that every entry point of the package leads to the portal is computed
    have hgroups : ∀ e ∈ portalPackage.entryPoints, e.group = s.plugins.entryPointGroup ∧
        e.name ≠ "" ∧ (resolver.factory? e).isSome = true := by
      decide +kernel
    obtain ⟨hgroup, hempty, hfactory⟩ := hgroups e he
    obtain ⟨factory, hfactory⟩ := Option.isSome_iff_exists.1 hfactory
    exact hentries portalPackage hmem e he hgroup hempty
      ⟨[], factory.run [], by simp [Resolver.resolve, hfactory]⟩

end Forum

end Plugboard
