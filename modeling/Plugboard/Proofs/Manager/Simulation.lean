import Plugboard.Proofs.Manager.Ledger

/-!
# A manager behaves as its ledger

A call gives the same answer on a coherent manager and on its ledger, and it leaves the manager with
the ledger that it leaves the ledger with (`ledger_call`). By induction this holds for calls that
follow one another (`ledger_calls`), and so for all calls on a new manager: they answer as they do
on an empty ledger, and what the manager shows after them can be read off what the ledger has
become.
-/

namespace Plugboard

namespace Manager

/-! ## Registering -/

/-- An object is internal after it was bound so, or if it was before. -/
theorem isInternal_bindAs (m : Manager) (name : String) (p : Plugin) (internal : Bool)
    (key : PluginKey) : (m.bindAs name p internal).isInternal key =
      if internal ∧ key = p.key then true else m.isInternal key := by
  rw [isInternal, get?_internalIdentities_bindAs]
  split <;> rfl

/-- An object that goes is internal no more. -/
theorem isInternal_unbind (m : Manager) (name : String) (p : Plugin) (key : PluginKey) :
    (m.unbind name p).isInternal key = if key = p.key then false else m.isInternal key := by
  rw [isInternal, get?_internalIdentities_unbind]
  split <;> rfl

namespace Coherent

variable {m : Manager} (h : m.Coherent)
include h

/-- An object that is not bound is not internal. -/
theorem isInternal_eq_false {key : PluginKey} (hkey : m.registry.nameOf? key = none) :
    m.isInternal key = false := by
  rw [isInternal]
  cases hname : Keyed.get? key m.internalIdentities with
  | none => rfl
  | some name =>
    rw [h.nameOf?_of_internal hname] at hkey
    cases hkey

/-- Binding a plugin adds an entry. -/
theorem ledger_bindAs {name : String} {p : Plugin} (hadmits : m.registry.Admits p name)
    (internal : Bool) : (m.bindAs name p internal).ledger =
      { m.ledger with entries := m.ledger.entries ++ [⟨⟨name, p⟩, internal⟩] } := by
  have hbindings : (m.bindAs name p internal).registry.bindings =
      m.registry.bindings ++ [⟨name, p⟩] := h.registry.bindings_bind hadmits.free
  -- the entries that are there keep their marks: none of them is the new object
  have hold : m.registry.bindings.map (fun b =>
      (⟨b, (m.bindAs name p internal).isInternal b.plugin.key⟩ : Entry)) = m.ledger.entries := by
    refine List.map_congr_left fun b hb => ?_
    have hkey : b.plugin.key ≠ p.key := h.registry.key_ne_of_nameOf?_eq_none
      hadmits.unregistered (h.registry.mem_bindings_iff.1 hb)
    rw [isInternal_bindAs, if_neg fun hand => hkey hand.2]
  have hnew : (m.bindAs name p internal).isInternal p.key = internal := by
    rw [isInternal_bindAs, h.isInternal_eq_false hadmits.unregistered]
    cases internal <;> simp
  rw [ledger, hbindings, List.map_append, hold, List.map_singleton, hnew]
  rfl

/-- A ledger refuses and accepts as the registry does. -/
theorem ledger_register_result (p : Plugin) (asked : Option String) (internal : Bool) :
    (m.ledger.register p asked internal).1 = (m.registry.register p asked).result := by
  -- the four questions that a registration asks, each answered from the entries
  have hname : m.registry.nameOf? p.key =
      (m.ledger.entries.find? (·.plugin.key = p.key)).map (·.name) := by
    rw [← h.nameOf?_eq, (ledger_describes h).nameOf?_eq]
  have hblocked : m.registry.isBlocked (p.registeredName asked) =
      decide (p.registeredName asked ∈ m.ledger.blocked) := by
    rw [← h.isBlocked_eq, (ledger_describes h).isBlocked_eq]
  have hbound : m.registry.hasPlugin (p.registeredName asked) =
      m.ledger.entries.any (·.name = p.registeredName asked) := by
    rw [← h.hasPlugin_eq, (ledger_describes h).hasPlugin_eq]
  have hfits : m.registry.verifyImpls (p.registeredName asked) p.impls =
      outcome (m.ledger.refusal? (p.registeredName asked) p) :=
    verifyImpls_eq m.registry (p.registeredName asked) p.impls
  -- with these both sides ask the same questions in the same order
  simp only [Ledger.register, Registry.register, registeredName_eq, hname, hblocked, hbound, hfits,
    decide_eq_true_eq]
  cases m.ledger.entries.find? (·.plugin.key = p.key) with
  | some entry => rfl
  | none =>
    simp only [Option.map_none]
    split
    · rfl
    · split
      · rfl
      · cases m.ledger.refusal? (p.registeredName asked) p <;> rfl

/-- To register on the ledger is to register on the manager. -/
theorem ledger_registerWith (p : Plugin) (asked : Option String) (internal : Bool) :
    m.ledger.register p asked internal =
      ((m.registerWith p asked internal).result,
        (m.registerWith p asked internal).state.ledger) := by
  have hresult := h.ledger_register_result p asked internal
  rw [← h.registerWith_result p asked internal] at hresult
  refine Prod.ext hresult ?_
  -- the common result tells that both sides bind, or that both change nothing
  rcases h.registerWith_cases p asked internal with ⟨hm, -, hno⟩ | ⟨hadmits, hyes, -, hm⟩
  · rcases m.ledger.register_cases p asked internal with ⟨hl, -⟩ | ⟨hl, -⟩
    · rw [hl, hm]
    · exact absurd (hresult.symm.trans hl) (hno _)
  · rcases m.ledger.register_cases p asked internal with ⟨-, hl⟩ | ⟨-, hl⟩
    · exact absurd (hresult.trans hyes) (hl _)
    · rw [hl, hm, h.ledger_bindAs hadmits]

end Coherent

/-! ## Unregistering and blocking -/

/-- Blocking a name that is free adds it to the blocked ones of the ledger. -/
theorem ledger_block (m : Manager) (name : String) :
    (m.block name).ledger = { m.ledger with blocked := insert name m.ledger.blocked } := by
  have hregistry : (m.block name).registry =
      { m.registry with blocked := (m.registry.block name).blocked } :=
    m.registry.block_eq name
  have hblocked : (m.registry.block name).blocked.toFinset =
      insert name m.registry.blocked.toFinset := by
    ext asked
    rw [List.mem_toFinset, Finset.mem_insert, List.mem_toFinset]
    exact m.registry.mem_blocked_block name asked
  rw [ledger, hregistry, hblocked]
  rfl

namespace Coherent

variable {m : Manager} (h : m.Coherent)
include h

/-- An object that is not selected stays internal or external as it was. -/
theorem isInternal_unregister {s : Selector} {b : Binding} (hb : b ∈ m.registry.bindings)
    (hs : b.selectedBy s = false) :
    (m.unregister s).state.isInternal b.plugin.key = m.isInternal b.plugin.key := by
  rcases h.unregister_cases s with ⟨hm, -⟩ | ⟨name, p, hname, hp, -, -, hm⟩
  · rw [hm]
  · -- what is unbound is selected, so a binding that is not selected has another object
    have hkey : b.plugin.key ≠ p.key := by
      intro hkey
      have hmem : ⟨name, p⟩ ∈ m.registry.bindings := h.registry.mem_bindings_iff.2 hp
      have hsame : b.name = name := h.registry.name_inj hb hmem hkey
      rw [(h.registry.selectedBy_iff hb s).2 (hsame ▸ hname)] at hs
      cases hs
    rw [hm, isInternal_unbind, if_neg hkey]

/-- Unregistering takes out an entry. -/
theorem ledger_unregister (s : Selector) :
    m.ledger.unregister s = ((m.unregister s).result, (m.unregister s).state.ledger) := by
  refine Prod.ext ?_ ?_
  · rw [h.unregister_result, h.registry.unregister_result, ← find?_ledger, Option.map_map]
    rfl
  · have hbindings : (m.unregister s).state.registry.bindings =
        m.registry.bindings.filter (!·.selectedBy s) := by
      rw [h.unregister_registry]
      exact h.registry.bindings_unregister s
    -- the entries that stay keep their marks
    have hentries : m.ledger.entries.filter (!·.selectedBy s) =
        (m.unregister s).state.ledger.entries := by
      have hmarks := filter_ledger (m := m) (q := (!·.selectedBy s))
        fun b hb hs => h.isInternal_unregister hb (by simpa using hs)
      rw [hmarks, ledger, hbindings]
    -- neither what is blocked nor what is specified changes
    have hrest : (m.unregister s).state.ledger =
        { m.ledger with entries := (m.unregister s).state.ledger.entries } := by
      rcases h.unregister_cases s with ⟨hm, -⟩ | ⟨name, p, -, -, -, -, hm⟩
      · rw [hm]
      · rw [hm, ledger, unbind_registry]
        rfl
    rw [hrest, ← hentries]
    rfl

/-- To block on the ledger is to block on the manager. -/
theorem ledger_setBlocked (name : String) :
    m.ledger.setBlocked name = (m.setBlocked name).state.ledger := by
  have hfree : (m.unregister (.name name)).state.ledger =
      { m.ledger with entries := m.ledger.entries.filter (·.name ≠ name) } := by
    have hafter := congrArg Prod.snd (h.ledger_unregister (.name name))
    simp only [Ledger.unregister, Binding.selectedBy, ← decide_not] at hafter
    exact hafter.symm
  rw [h.setBlocked_state, ledger_block, hfree]
  rfl

end Coherent

/-! ## Specifying -/

/-- Specifying changes the specifications of a ledger alone. -/
theorem ledger_addSpecs_state (m : Manager) (container : SpecContainer) :
    (m.addSpecs container).state.ledger =
      { m.ledger with specs := (m.registry.addSpecs container).state.specs } := by
  have hregistry : (m.addSpecs container).state.registry =
      (m.registry.addSpecs container).state := rfl
  rw [ledger, hregistry, Registry.addSpecs_state]
  rfl

/-- To specify on the ledger is to specify on the manager. -/
theorem Coherent.ledger_addSpecs {m : Manager} (h : m.Coherent) (container : SpecContainer) :
    m.ledger.addSpecs container =
      ((m.addSpecs container).result, (m.addSpecs container).state.ledger) := by
  have hcheck : m.registry.checkSpec = fun spec => outcome (m.ledger.contradiction? spec) :=
    funext (checkSpec_eq h)
  rw [ledger_addSpecs_state]
  -- both sides now branch on the same three things
  have hproject : m.ledger.project = m.registry.project := rfl
  have hspecs : m.ledger.specs = m.registry.specs := rfl
  simp only [Ledger.addSpecs, Manager.addSpecs, Registry.addSpecs, hcheck, forM_outcome, hproject,
    hspecs, List.isEmpty_iff]
  split
  · rfl
  · cases (container.specs.filter (·.project = m.registry.project)).findSome?
      m.ledger.contradiction? with
    | some e => rfl
    | none =>
      simp only [outcome]
      cases (m.registry.specs.addAll
        (container.specs.filter (·.project = m.registry.project))).result <;> rfl

/-! ## Calls -/

/-- A call answers on a coherent manager as it does on the ledger, and changes both alike. -/
theorem Coherent.ledger_call {m : Manager} (h : m.Coherent) (c : Call) :
    m.ledger.call c = ((m.call c).1, (m.call c).2.ledger) := by
  -- the three ways to register differ in the mark alone
  have hregister : ∀ p asked internal, (m.ledger.register p asked internal).map .registered id =
      (Answer.registered (m.registerWith p asked internal).result,
        (m.registerWith p asked internal).state.ledger) := by
    intro p asked internal
    rw [h.ledger_registerWith]
    rfl
  cases c with
  | register p asked => exact hregister p asked false
  | registerWith p asked internal => exact hregister p asked internal
  | registerInternal p asked => exact hregister p asked true
  | unregister s => exact congrArg (Prod.map Answer.unregistered id) (h.ledger_unregister s)
  | setBlocked name => exact congrArg (Prod.mk Answer.blocked) (h.ledger_setBlocked name)
  | addSpecs container =>
    exact congrArg (Prod.map Answer.specified id) (h.ledger_addSpecs container)

/-- So do calls that follow one another. -/
theorem Coherent.ledger_calls {m : Manager} (h : m.Coherent) (cs : List Call) :
    m.ledger.calls cs = ((m.calls cs).1, (m.calls cs).2.ledger) := by
  induction cs generalizing m with
  | nil => rfl
  | cons c rest ih =>
    simp only [Ledger.calls, Manager.calls, h.ledger_call c, ih (h.call c)]

/-- Calls on a new manager answer as they do on a new ledger, and what the manager shows after them
    is what the ledger says. -/
theorem calls_describes (project : String) (cs : List Call) :
    ((Manager.new project).calls cs).1 = ((Ledger.new project).calls cs).1 ∧
      ((Ledger.new project).calls cs).2.Describes ((Manager.new project).calls cs).2 := by
  have hnew : (Manager.new project).ledger = Ledger.new project := rfl
  have hcalls := (coherent_new project).ledger_calls cs
  rw [hnew] at hcalls
  rw [hcalls]
  exact ⟨rfl, ledger_describes ((coherent_new project).calls cs)⟩

end Manager

end Plugboard
