import Plugboard.Proofs.Manager.Growth
import Plugboard.Proofs.Manager.Lockstep
import Plugboard.Proofs.Manager.Parking

/-!
# Blocked for good

A host can block a name and cannot undo it. Two things together make that final. No operation takes
a name from the blocked ones (`Blocks.run`), and where a name is blocked, by whatever run, nothing
is bound to it and nothing gets bound to it (`Blocks.bars`): not by a call, not under a name that a
plugin states itself, not as an internal plugin and not by a load pass.
-/

namespace Plugboard

namespace Registry

/-- A handler is stored under the name of a bound plugin. -/
theorem Coherent.plugin_mem_names {r : Registry} (h : r.Coherent) {hook : String}
    {entry : HookEntry} (hentry : entry ∈ r.hooks.impls hook) : entry.plugin ∈ r.names := by
  rw [h.impls_eq] at hentry
  obtain ⟨b, hb, hoffers⟩ := List.mem_flatMap.1 hentry
  rw [Binding.plugin_of_mem_offers hoffers, ← h.map_name_bindings]
  exact List.mem_map_of_mem hb

/-- A call blocks what was blocked. -/
theorem blocked_subset_call (r : Registry) (c : Call) : r.blocked ⊆ (r.call c).2.blocked := by
  -- to register or unregister a plugin blocks nothing and frees nothing
  have hregister : ∀ p asked, r.blocked ⊆ (r.register p asked).state.blocked := by
    intro p asked
    rcases r.register_cases p asked with ⟨hstate, -⟩ | ⟨-, -, hstate⟩
    · rw [hstate]
      exact List.Subset.refl _
    · rw [hstate]
      exact List.Subset.refl _
  have hunregister : ∀ s, r.blocked ⊆ (r.unregister s).state.blocked := by
    intro s
    rcases r.unregister_cases s with ⟨hstate, -⟩ | ⟨name, p, -, -, -, hstate⟩
    · rw [hstate]
      exact List.Subset.refl _
    · rw [hstate]
      exact List.Subset.refl _
  cases c with
  | register p asked => exact hregister p asked
  | registerWith p asked internal => exact hregister p asked
  | registerInternal p asked => exact hregister p asked
  | unregister s => exact hunregister s
  | setBlocked name =>
    -- the one call that blocks anything adds to what there is
    intro other hother
    show other ∈ (r.setBlocked name).state.blocked
    rw [setBlocked_state, mem_blocked_block]
    exact .inr (hunregister _ hother)
  | addSpecs container =>
    show r.blocked ⊆ (r.addSpecs container).state.blocked
    rw [addSpecs_state]
    exact List.Subset.refl _

end Registry

namespace Manager

/-- Blocking a name blocks it. -/
theorem Coherent.blocks_setBlocked {m : Manager} (h : m.Coherent) (name : String) :
    (m.setBlocked name).state.Blocks name := by
  refine ⟨h.setBlocked name, ?_⟩
  rw [(h.setBlocked name).isBlocked_eq, h.setBlocked_registry, Registry.isBlocked,
    List.contains_iff_mem, Registry.setBlocked_state, Registry.mem_blocked_block]
  exact .inl rfl

namespace Blocks

variable {m : Manager} {name : String} (h : m.Blocks name)
include h

/-- A name that is blocked is blocked in the registry below. -/
theorem mem_blocked : name ∈ m.registry.blocked := by
  have hblocked := h.blocked
  rwa [h.coherent.isBlocked_eq, Registry.isBlocked, List.contains_iff_mem] at hblocked

/-- Every call keeps a name blocked. -/
theorem call (c : Call) : (m.call c).2.Blocks name := by
  refine ⟨h.coherent.call c, ?_⟩
  -- seen from the registry below, nothing is ever taken from the blocked names
  have hregistry : (m.registry.call c).2 = (m.call c).2.registry :=
    congrArg Prod.snd (h.coherent.registry_call c)
  rw [(h.coherent.call c).isBlocked_eq, ← hregistry, Registry.isBlocked, List.contains_iff_mem]
  exact m.registry.blocked_subset_call c h.mem_blocked

/-- What is blocked stays blocked. -/
theorem run (ops : List Op) : (m.run ops).Blocks name :=
  run_induction (P := (Blocks · name)) (fun _ c hm => hm.call c)
    (fun _ _ hm => ⟨hm.coherent.congr rfl rfl rfl rfl, hm.blocked⟩)
    (fun _ supply finding hm => hm.recordWith supply finding)
    (fun _ finding hm => hm.disable finding) h ops

/-- Nothing is bound to a blocked name. -/
theorem not_mem_registry_names : name ∉ m.registry.names := by
  intro hmem
  obtain ⟨p, hp⟩ := (h.coherent.registry.mem_order_iff name).1 hmem
  rw [h.coherent.registry.unbound name h.mem_blocked] at hp
  cases hp

/-- A registration does not answer with a blocked name. -/
theorem registerWith_result_ne (p : Plugin) (asked : Option String) (internal : Bool) :
    (m.registerWith p asked internal).result ≠ .ok (some name) := by
  rcases h.coherent.registerWith_cases p asked internal with ⟨-, -, hno⟩ | ⟨hadmits, hyes, -, -⟩
  · exact hno name
  · -- the name that it answers with was allowed, and this one is not
    intro hname
    have hsame : p.registeredName asked = name := by
      rw [hyes] at hname
      simpa using hname
    have hallowed := hadmits.allowed
    rw [hsame, ← h.coherent.isBlocked_eq, h.blocked] at hallowed
    cases hallowed

end Blocks

/-- A name is out of use: nobody finds anything under it, and nothing that a host can do next binds
    anything to it. -/
structure Bars (m : Manager) (name : String) : Prop where
  isBlocked : m.isBlocked name = true
  plugin?_eq_none : m.plugin? name = none
  not_mem_names : name ∉ m.names
  not_mem_internalNames : name ∉ m.internalNames
  not_mem_registry_names : name ∉ m.registry.names
  /-- No handler is stored under the name. -/
  plugin_ne : ∀ hook, ∀ entry ∈ m.registry.hooks.impls hook, entry.plugin ≠ name
  /-- No call answers that something was bound to the name. -/
  answer_ne : ∀ c, (m.call c).1 ≠ .registered (.ok (some name))
  /-- An entry point of this name does not count as loaded. -/
  loadEntryPoint_result : ∀ resolver d group value,
    (m.loadEntryPoint resolver d ⟨name, group, value⟩).result = false
  /-- A load pass binds as many names as it counts, and the name is not one of them. -/
  load_names : ∀ files group only?, ∃ new,
    (m.load files group only?).state.registry.names = m.registry.names ++ new ∧
      (m.load files group only?).result = new.length ∧ name ∉ new

/-- A blocked name is out of use. -/
theorem Blocks.bars {m : Manager} {name : String} (h : m.Blocks name) : m.Bars name where
  isBlocked := h.blocked
  plugin?_eq_none := by
    rw [h.coherent.plugin?_eq]
    exact h.coherent.registry.unbound name h.mem_blocked
  not_mem_names := fun hmem => h.not_mem_registry_names (List.mem_filter.1 hmem).1
  not_mem_internalNames := by
    intro hmem
    refine h.not_mem_registry_names ?_
    rw [← h.coherent.registry.map_name_bindings]
    exact (List.filter_sublist.map _).subset hmem
  not_mem_registry_names := h.not_mem_registry_names
  plugin_ne := fun hook entry hentry hname =>
    h.not_mem_registry_names (hname ▸ h.coherent.registry.plugin_mem_names hentry)
  answer_ne := by
    intro c hanswer
    cases c with
    | register p asked =>
      exact h.registerWith_result_ne p asked false (Answer.registered.inj hanswer)
    | registerWith p asked internal =>
      exact h.registerWith_result_ne p asked internal (Answer.registered.inj hanswer)
    | registerInternal p asked =>
      exact h.registerWith_result_ne p asked true (Answer.registered.inj hanswer)
    | unregister s => cases hanswer
    | setBlocked other => cases hanswer
    | addSpecs container => cases hanswer
  loadEntryPoint_result := by
    intro resolver d group value
    -- an entry point of this name is passed over or disabled
    rcases m.loadEntryPoint_cases resolver d ⟨name, group, value⟩ with
      ⟨-, hresult, -⟩ | ⟨p, supply, -, -, ⟨-, -, hresult, -⟩ | ⟨hfree, -, -⟩⟩
    · exact hresult
    · exact hresult
    · rw [h.blocked] at hfree
      cases hfree
  load_names := by
    intro files group only?
    obtain ⟨new, hgrows, hcount⟩ := h.coherent.load_grows files group only?
    -- the pass is a run, so the name is still blocked after it
    have hafter : (m.load files group only?).state.Blocks name := h.run [.load files group only?]
    have hnames := hgrows.names_eq h.coherent hafter.coherent
    refine ⟨new.map (·.name), hnames, by rw [hcount, List.length_map], fun hmem => ?_⟩
    refine hafter.not_mem_registry_names ?_
    rw [hnames]
    exact List.mem_append_right _ hmem

/-- Once a name is blocked it is out of use, whatever happened before and whatever happens after. -/
theorem barred_after_setBlocked (project : String) (before after : List Op) (name : String) :
    ((Manager.new project).run (before ++ .call (.setBlocked name) :: after)).Bars name := by
  have hblocks : (((Manager.new project).run before).setBlocked name).state.Blocks name :=
    (coherent_run project before).blocks_setBlocked name
  rw [run_append]
  exact (hblocks.run after).bars

end Manager

end Plugboard
