import Plugboard.Proofs.Manager.Run

/-!
# Where blocked plugins go

A load pass that comes upon an entry point of a blocked name makes its plugin, keeps the description
and disables the plugin, so that a host can list it. It does so only once: a name under which a
plugin was found is passed over. What a pass does for a blocked name depends on no more than this
(`loadAll_blocked`).

The shortcut does not ask why the plugin was found. One that was found while its name was free was
bound, not disabled; if the name is blocked later, no pass disables the plugin any more. So a pass
leaves a blocked name disabled exactly if it was disabled before or nothing was found under it.
-/

namespace Plugboard

namespace Manager

/-- Whether a plugin is disabled under a name. -/
def hasDisabled (m : Manager) (name : String) : Bool := m.disabled.any (·.name = name)

/-! ## The findings of discovery -/

/-- Recording a finding adds its name to those under which something was found. -/
theorem hasFound_recordWith (m : Manager) (supply : Supply) (finding : Finding) (name : String) :
    (m.recordWith supply finding).hasFound name =
      (m.hasFound name || decide (finding.name = name)) := by
  have hfound : (m.recordWith supply finding).found =
      if m.hasFound finding.name then
        m.found.map fun f => if f.name = finding.name then finding else f
      else m.found ++ [finding] := rfl
  rw [hasFound, hfound]
  split
  · rename_i hold
    -- what is replaced has the name of what takes its place
    have hnames : ((fun f => decide (f.name = name)) ∘ fun f =>
        if f.name = finding.name then finding else f) = fun f => decide (f.name = name) := by
      funext f
      by_cases hf : f.name = finding.name <;> simp [hf]
    rw [List.any_map, hnames]
    by_cases hname : finding.name = name
    · have hfound : m.hasFound name = true := hname ▸ hold
      rw [hfound, Bool.true_or]
      exact hfound
    · simp [hname, hasFound]
  · simp [hasFound]

/-- Recording a finding describes its plugin under its name. -/
theorem metadata?_recordWith (m : Manager) (supply : Supply) (finding : Finding) (name : String) :
    (m.recordWith supply finding).metadata? name =
      if name = finding.name then some (.ofDistribution finding.name finding.distribution)
      else m.metadata? name := by
  -- under its name the description is new; under another one it is that of before
  split
  · rename_i hname
    rw [hname]
    exact Keyed.get?_put_self _ _ _
  · rename_i hname
    exact Keyed.get?_put_of_ne hname _ _

/-- Recording a finding disables nothing. -/
theorem hasDisabled_recordWith (m : Manager) (supply : Supply) (finding : Finding) (name : String) :
    (m.recordWith supply finding).hasDisabled name = m.hasDisabled name := rfl

/-- Disabling a plugin finds nothing. -/
theorem hasFound_disable (m : Manager) (finding : Finding) (name : String) :
    (m.disable finding).hasFound name = m.hasFound name := by
  rw [disable_eq]
  rfl

/-- Disabling a plugin adds its name to the disabled ones. -/
theorem hasDisabled_disable (m : Manager) (finding : Finding) (name : String) :
    (m.disable finding).hasDisabled name =
      (m.hasDisabled name || decide (finding.name = name)) := by
  rw [disable]
  split
  · rename_i hold
    by_cases hname : finding.name = name
    · have hdisabled : m.hasDisabled name = true := hname ▸ hold
      simp [hdisabled]
    · simp [hname]
  · simp [hasDisabled]

/-- What discovery left behind: the plugins found, the disabled ones and the descriptions. -/
def findings (m : Manager) : List Finding × List Finding × List (String × DistMeta) :=
  (m.found, m.disabled, m.metadata)

/-- Registering a plugin finds and disables nothing. -/
theorem findings_registerWith (m : Manager) (p : Plugin) (asked : Option String) (internal : Bool) :
    (m.registerWith p asked internal).state.findings = m.findings := by
  rw [registerWith_frame]
  rfl

/-- Calls leave the findings alone. -/
theorem findings_call (m : Manager) (c : Call) : (m.call c).2.findings = m.findings :=
  call_frame (fun _ _ _ _ _ => rfl) m c

/-- Under the same findings the same names were found. -/
theorem hasFound_congr {m n : Manager} (h : m.findings = n.findings) : m.hasFound = n.hasFound := by
  have hfound : m.found = n.found := congrArg (·.1) h
  funext name
  rw [hasFound, hfound, hasFound]

/-- Under the same findings the same names are disabled. -/
theorem hasDisabled_congr {m n : Manager} (h : m.findings = n.findings) :
    m.hasDisabled = n.hasDisabled := by
  have hdisabled : m.disabled = n.disabled := congrArg (·.2.1) h
  funext name
  rw [hasDisabled, hdisabled, hasDisabled]

/-- Under the same findings names have the same descriptions. -/
theorem metadata?_congr {m n : Manager} (h : m.findings = n.findings) :
    m.metadata? = n.metadata? := by
  have hmetadata : m.metadata = n.metadata := congrArg (·.2.2) h
  funext name
  rw [metadata?, hmetadata, metadata?]

/-- What was found is described. -/
def Described (m : Manager) : Prop :=
  ∀ name, m.hasFound name = true → (m.metadata? name).isSome = true

/-- Whether all findings are described is told by the findings and the descriptions alone. -/
theorem Described.congr {m n : Manager} (h : m.Described) (hfindings : n.findings = m.findings) :
    n.Described := by
  intro name hfound
  rw [hasFound_congr hfindings] at hfound
  rw [metadata?_congr hfindings]
  exact h name hfound

/-- After every run all that was found is described. -/
theorem described_run (project : String) (ops : List Op) :
    ((Manager.new project).run ops).Described := by
  -- only a finding that is recorded is found, and it is described with it
  refine run_induction ?_ ?_ ?_ ?_ (fun _ hfound => nomatch hfound) ops
  · intro m c h
    exact h.congr (m.findings_call c)
  · intro m d h
    exact h.congr rfl
  · intro m supply finding h name hfound
    rw [metadata?_recordWith]
    rw [hasFound_recordWith, Bool.or_eq_true] at hfound
    split
    · rfl
    · rename_i hname
      exact h name (hfound.resolve_right (by simpa using Ne.symm hname))
  · intro m finding h name hfound
    rw [disable_eq] at hfound ⊢
    exact h name hfound

/-! ## Load passes and a blocked name -/

/-- A coherent manager blocks a name. -/
structure Blocks (m : Manager) (name : String) : Prop where
  /-- The manager is coherent. -/
  coherent : m.Coherent
  /-- The name is blocked. -/
  blocked : m.isBlocked name = true

namespace Blocks

variable {m : Manager} {name : String} (h : m.Blocks name)
include h

/-- A blocked name is bound to nothing. -/
theorem hasPlugin_eq_false : m.hasPlugin name = false := by
  have hblocked := h.blocked
  rw [h.coherent.isBlocked_eq, Registry.isBlocked, List.contains_iff_mem] at hblocked
  rw [h.coherent.hasPlugin_eq, Registry.hasPlugin, h.coherent.registry.unbound name hblocked]
  rfl

/-- Recording a finding frees no name. -/
theorem recordWith (supply : Supply) (finding : Finding) :
    (m.recordWith supply finding).Blocks name :=
  ⟨h.coherent.recordWith supply finding, h.blocked⟩

/-- Nor does disabling a plugin. -/
theorem disable (finding : Finding) : (m.disable finding).Blocks name := by
  refine ⟨h.coherent.disable finding, ?_⟩
  rw [disable_eq]
  exact h.blocked

/-- Nor does registering a plugin. -/
theorem register (p : Plugin) (asked : Option String) : (m.register p asked).state.Blocks name := by
  refine ⟨h.coherent.registerWith p asked false, ?_⟩
  rcases h.coherent.registerWith_cases p asked false with ⟨hm, -⟩ | ⟨-, -, -, hm⟩
  · rw [Manager.register, hm]
    exact h.blocked
  · rw [Manager.register, hm]
    exact h.blocked

/-- So a name stays blocked while an entry point is loaded. -/
theorem loadEntryPoint (resolver : Resolver) (d : Distribution) (e : EntryPoint) :
    (m.loadEntryPoint resolver d e).state.Blocks name :=
  loadEntryPoint_induction (P := (Blocks · name))
    (fun _ supply finding hm => hm.recordWith supply finding)
    (fun _ finding hm => hm.disable finding) (fun _ p asked hm => hm.register p asked) h
    resolver d e

/-- And while many are. -/
theorem loadAll (resolver : Resolver) (points : List (Distribution × EntryPoint)) :
    (m.loadAll resolver points).state.Blocks name :=
  loadAll_induction (P := (Blocks · name))
    (fun _ supply finding hm => hm.recordWith supply finding)
    (fun _ finding hm => hm.disable finding) (fun _ p asked hm => hm.register p asked) h
    resolver points

end Blocks

end Manager

/-- Whether an entry point leads to a plugin of a name. -/
def Resolver.leadsTo (r : Resolver) (name : String) (e : EntryPoint) : Bool :=
  e.name = name && (r.factory? e).isSome

/-- A resolver leads a name to a plugin by an entry point of this name that has a factory. -/
theorem Resolver.leadsTo_iff {r : Resolver} {name : String} {e : EntryPoint} :
    r.leadsTo name e = true ↔ e.name = name ∧ (r.factory? e).isSome = true := by
  simp [leadsTo]

/-- What is resolved has a factory. -/
theorem Resolver.leadsTo_of_resolve {r : Resolver} {supply : Supply} {e : EntryPoint}
    {found : Plugin × Supply} (h : r.resolve supply e = .ok found) : r.leadsTo e.name e = true := by
  rw [resolve] at h
  -- without a factory the answer is an error
  cases hfactory : r.factory? e with
  | some factory => simp [leadsTo, hfactory]
  | none =>
    rw [hfactory] at h
    cases h

namespace Manager

/-- For a blocked name, an entry point that leads to a plugin of this name is all that counts; it
    disables the name if nothing was found under it. -/
theorem loadEntryPoint_blocked {m : Manager} {name : String} (h : m.Blocks name)
    (resolver : Resolver) (d : Distribution) (e : EntryPoint) :
    (m.loadEntryPoint resolver d e).state.hasFound name =
        (m.hasFound name || resolver.leadsTo name e) ∧
      (m.loadEntryPoint resolver d e).state.hasDisabled name =
        (m.hasDisabled name || (!m.hasFound name && resolver.leadsTo name e)) := by
  rcases loadEntryPoint_cases m resolver d e with
    ⟨hm, -, hwhy⟩ | ⟨p, supply, hres, -, ⟨-, hnew, -, hm⟩ | ⟨hfree, -, hm⟩⟩
  · -- passed over: if it leads to the name, a plugin was found under it
    have hfound : resolver.leadsTo name e = true → m.hasFound name = true := by
      intro hleads
      obtain ⟨rfl, hfactory⟩ := Resolver.leadsTo_iff.1 hleads
      rcases hwhy with hbound | ⟨-, hfound⟩ | ⟨reason, hreason⟩
      · rw [h.hasPlugin_eq_false] at hbound
        cases hbound
      · exact hfound
      · obtain ⟨factory, hfactory⟩ := Option.isSome_iff_exists.1 hfactory
        simp [Resolver.resolve, hfactory] at hreason
    rw [hm]
    cases hleads : resolver.leadsTo name e with
    | false => simp
    | true => simp [hfound hleads]
  · -- disabled
    rw [hm, hasDisabled_disable, hasFound_disable, hasFound_recordWith, hasDisabled_recordWith]
    by_cases hname : e.name = name
    · rw [← hname, hnew, Resolver.leadsTo_of_resolve hres]
      simp
    · simp [Resolver.leadsTo, hname]
  · -- registered: then the name of the entry point is not the blocked one
    have hname : e.name ≠ name := by
      rintro rfl
      have hblocked := h.blocked
      rw [hfree] at hblocked
      cases hblocked
    have hfindings :=
      (m.recordWith supply ⟨e.name, p, d⟩).findings_registerWith p (some e.name) false
    rw [hm, register, hasFound_congr hfindings, hasDisabled_congr hfindings, hasFound_recordWith,
      hasDisabled_recordWith]
    simp [Resolver.leadsTo, hname]

/-- Loading entry points one after another finds a plugin under a blocked name if one of them leads
    to it, and disables the name if none was found before. -/
theorem loadAll_blocked {m : Manager} {name : String} (h : m.Blocks name) (resolver : Resolver)
    (points : List (Distribution × EntryPoint)) :
    (m.loadAll resolver points).state.hasFound name =
        (m.hasFound name || points.any (resolver.leadsTo name ·.2)) ∧
      (m.loadAll resolver points).state.hasDisabled name =
        (m.hasDisabled name || (!m.hasFound name && points.any (resolver.leadsTo name ·.2))) := by
  induction points generalizing m with
  | nil => simp [loadAll]
  | cons point rest ih =>
    obtain ⟨d, e⟩ := point
    obtain ⟨hfound, hdisabled⟩ := loadEntryPoint_blocked h resolver d e
    -- the name stays blocked, so the rest is told the same way from where the first leaves off
    obtain ⟨hfoundRest, hdisabledRest⟩ := ih (h.loadEntryPoint resolver d e)
    rw [hfound] at hfoundRest
    rw [hfound, hdisabled] at hdisabledRest
    rw [List.any_cons]
    refine ⟨hfoundRest.trans (Bool.or_assoc _ _ _), hdisabledRest.trans ?_⟩
    cases m.hasFound name <;> cases resolver.leadsTo name e <;> simp

/-- A pass visits the entry points that are wanted, each with its distribution. -/
theorem mem_visited_iff {group : String} {only? : Option String} {ds : List Distribution}
    {d : Distribution} {e : EntryPoint} :
    (d, e) ∈ visited group only? ds ↔ d ∈ ds ∧ e ∈ d.entryPoints ∧ wanted group only? e = true := by
  simp only [visited, List.mem_flatMap, List.mem_map, List.mem_filter, Prod.mk.injEq]
  constructor
  · rintro ⟨d, hd, e, ⟨he, hwanted⟩, rfl, rfl⟩
    exact ⟨hd, he, hwanted⟩
  · rintro ⟨hd, he, hwanted⟩
    exact ⟨d, hd, e, ⟨he, hwanted⟩, rfl, rfl⟩

/-- A load pass after any run, and an entry point that it matches, whose name is blocked and whose
    value leads to a plugin. After the pass the name is not bound and has a description. It is
    disabled exactly if it was before or nothing had been found under it. -/
theorem disabled_after_load_iff (project : String) (ops : List Op) (files : Files) (group : String)
    (only? : Option String) {discovery : Discovery} {d : Distribution} {e : EntryPoint}
    (hdiscovery : ((Manager.new project).run ops).discovery? = some discovery)
    (hd : d ∈ (discovery.source.distributions files).result) (he : e ∈ d.entryPoints)
    (hwanted : wanted group only? e = true)
    (hblocked : ((Manager.new project).run ops).isBlocked e.name = true)
    (hresolves : ∃ supply found, discovery.resolver.resolve supply e = .ok found) :
    let before := (Manager.new project).run ops
    let after := (before.load files group only?).state
    after.hasPlugin e.name = false ∧ (after.metadata? e.name).isSome = true ∧
      (after.hasDisabled e.name = true ↔
        before.hasDisabled e.name = true ∨ before.hasFound e.name = false) := by
  intro before after
  have hblocks : before.Blocks e.name := ⟨coherent_run project ops, hblocked⟩
  have hafter : after = (before.loadAll discovery.resolver
      (visited group only? (discovery.source.distributions files).result)).state := by
    simp only [after, before, load, hdiscovery]
  obtain ⟨supply, found, hfound⟩ := hresolves
  -- the entry point is visited and leads to the name, and this decides the rest
  have hleads : (visited group only? (discovery.source.distributions files).result).any
      (discovery.resolver.leadsTo e.name ·.2) = true :=
    List.any_eq_true.2 ⟨(d, e), mem_visited_iff.2 ⟨hd, he, hwanted⟩,
      Resolver.leadsTo_of_resolve hfound⟩
  obtain ⟨hfoundAfter, hdisabledAfter⟩ := loadAll_blocked hblocks discovery.resolver
    (visited group only? (discovery.source.distributions files).result)
  rw [← hafter, hleads] at hfoundAfter hdisabledAfter
  refine ⟨?_, ?_, ?_⟩
  · rw [hafter]
    exact (hblocks.loadAll _ _).hasPlugin_eq_false
  · -- the pass is itself part of a run, so what was found in it is described
    have hrun : after = (Manager.new project).run (ops ++ [.load files group only?]) := by
      rw [run_append]
      rfl
    have hdescribed : after.Described := hrun ▸ described_run project _
    refine hdescribed e.name ?_
    rw [hfoundAfter, Bool.or_true]
  · rw [hdisabledAfter]
    simp

/-! ## A name that is blocked too late -/

/-- One installed package with one plugin, and the way to make it. -/
def portalDiscovery : Discovery where
  source :=
    .installed [(Distribution.new "portal" "1.0").withEntryPoint "plugins" "portal" "portal"]
  resolver := ⟨[("portal", .shared ⟨{}, ⟨"portal", 0⟩⟩)]⟩

/-- Blocked before the first pass, the plugin is disabled by it. -/
theorem blocked_before_binding_disabled :
    let before := (Manager.new "forum").run [
      .setDiscovery portalDiscovery,
      .call (.setBlocked "portal")]
    let after := (before.load ⟨.folder [], []⟩ "plugins" none).state
    after.hasPlugin "portal" = false ∧ (after.metadata? "portal").isSome = true ∧
      after.hasDisabled "portal" = true := by
  intro before after
  have hdiscovery : before.discovery? = some portalDiscovery := rfl
  have hafter := disabled_after_load_iff "forum" _ ⟨.folder [], []⟩ "plugins" none
    (e := ⟨"portal", "plugins", "portal"⟩) hdiscovery List.mem_cons_self List.mem_cons_self
    (by decide) (by decide +kernel) ⟨[], _, rfl⟩
  exact ⟨hafter.1, hafter.2.1, hafter.2.2.2 (.inr (by decide +kernel))⟩

/-- Bound by a first pass and blocked then, the plugin is not disabled by the next one. -/
theorem blocked_after_binding_not_disabled :
    let before := (Manager.new "forum").run [
      .setDiscovery portalDiscovery,
      .load ⟨.folder [], []⟩ "plugins" none,
      .call (.setBlocked "portal")]
    before.isBlocked "portal" = true ∧
      (portalDiscovery.resolver.factory? ⟨"portal", "plugins", "portal"⟩).isSome = true ∧
      (before.load ⟨.folder [], []⟩ "plugins" none).state.hasDisabled "portal" = false := by
  decide +kernel

end Manager

end Plugboard
