import Plugboard.Proofs.Manager.Growth
import Plugboard.Proofs.Manager.Lockstep

/-!
# The objects there are

A definition that makes a new object every time numbers its objects, and the supply of a manager
counts how many there are of each line. A host can hand over only what exists. So in a run that can
happen (`Feasible`) every object that is bound, or that a discovery yields again and again, was
given or made before (`genuine_run`), and an object that is made next is bound to nothing
(`Genuine.nameOf?_next`).
-/

namespace Plugboard

namespace Supply

/-- An object was given, or it was made. -/
def Has (supply : Supply) (key : PluginKey) : Prop :=
  key.serial ≤ (Keyed.get? key.line supply).getD 0

instance (supply : Supply) (key : PluginKey) : Decidable (supply.Has key) :=
  inferInstanceAs (Decidable (_ ≤ _))

/-- The supply of a line after an object was made. -/
theorem get?_next (supply : Supply) (line : String) (d : PluginDef) :
    Keyed.get? line (supply.next line d).2 = some (supply.next line d).1.key.serial :=
  Keyed.get?_put_self _ _ _

/-- What exists goes on to exist. -/
theorem Has.next {supply : Supply} {key : PluginKey} (h : supply.Has key) (line : String)
    (d : PluginDef) : (supply.next line d).2.Has key := by
  by_cases hline : key.line = line
  · -- in its own line the count goes up by one
    subst hline
    rw [Has, get?_next]
    exact Nat.le_succ_of_le h
  · have hother : Keyed.get? key.line (supply.next line d).2 = Keyed.get? key.line supply :=
      Keyed.get?_put_of_ne hline _ _
    rwa [Has, hother]

/-- An object that is made exists then. -/
theorem has_next (supply : Supply) (line : String) (d : PluginDef) :
    (supply.next line d).2.Has (supply.next line d).1.key := by
  have hline : (supply.next line d).1.key.line = line := rfl
  rw [Has, hline, get?_next]
  exact Nat.le_refl _

/-- It did not exist before. -/
theorem not_has_next (supply : Supply) (line : String) (d : PluginDef) :
    ¬supply.Has (supply.next line d).1.key :=
  Nat.not_succ_le_self _

end Supply

/-- The object that a factory yields every time, if it does not make new ones. -/
def Factory.lent? : Factory → Option PluginKey
  | .shared p => some p.key
  | .fresh _ _ => none

namespace Resolver

/-- The objects that a resolver yields again and again. -/
def lent (r : Resolver) : List PluginKey := r.factories.filterMap (·.2.lent?)

/-- An entry point leads to an object that is yielded every time, or to the next of a line. -/
theorem resolve_cases {r : Resolver} {supply later : Supply} {e : EntryPoint} {p : Plugin}
    (h : r.resolve supply e = .ok (p, later)) :
    (r.factory? e = some (.shared p) ∧ later = supply) ∨
      ∃ line d, r.factory? e = some (.fresh line d) ∧ p = (supply.next line d).1 ∧
        later = (supply.next line d).2 := by
  rw [resolve] at h
  cases hfactory : r.factory? e with
  | none =>
    rw [hfactory] at h
    cases h
  | some factory =>
    simp only [hfactory, Except.ok.injEq] at h
    -- a factory lends its one object or makes a new one
    cases factory with
    | shared q =>
      obtain ⟨rfl, rfl⟩ := Prod.mk.inj h
      exact .inl ⟨rfl, rfl⟩
    | fresh line d =>
      obtain ⟨hp, hlater⟩ := Prod.mk.inj h
      exact .inr ⟨line, d, rfl, hp.symm, hlater.symm⟩

/-- What an entry point leads to is a factory of some value. -/
theorem mem_factories {r : Resolver} {e : EntryPoint} {factory : Factory}
    (h : r.factory? e = some factory) : ∃ value, (value, factory) ∈ r.factories := by
  rw [factory?] at h
  cases hvalue : Keyed.get? (Text.trim e.value) r.factories with
  | some found =>
    rw [hvalue] at h
    cases h
    exact ⟨_, Keyed.mem_of_get?_eq_some hvalue⟩
  | none =>
    rw [hvalue] at h
    exact ⟨_, Keyed.mem_of_get?_eq_some h⟩

/-- What an entry point yields again and again is lent by its resolver. -/
theorem mem_lent {r : Resolver} {e : EntryPoint} {p : Plugin}
    (h : r.factory? e = some (.shared p)) : p.key ∈ r.lent := by
  obtain ⟨value, hvalue⟩ := mem_factories h
  exact List.mem_filterMap.2 ⟨_, hvalue, rfl⟩

end Resolver

/-- The object that a call hands over to be bound. -/
def Call.objects : Call → List PluginKey
  | .register p _ | .registerWith p _ _ | .registerInternal p _ => [p.key]
  | .unregister _ | .setBlocked _ | .addSpecs _ => []

/-- The objects that an operation hands over to be bound, now or by a load pass. -/
def Op.objects : Op → List PluginKey
  | .call c => c.objects
  | .setDiscovery d => d.resolver.lent
  | .disable _ | .load _ _ _ => []

/-- What is bound after a call was bound before it or is the object that was handed over. -/
theorem Registry.Coherent.mem_bindings_call {r : Registry} (h : r.Coherent) (c : Call) {b : Binding}
    (hb : b ∈ (r.call c).2.bindings) : b ∈ r.bindings ∨ b.plugin.key ∈ c.objects := by
  -- only registering binds anything, and it binds what is handed over
  have hregister : ∀ p asked, b ∈ (r.register p asked).state.bindings →
      b ∈ r.bindings ∨ b.plugin.key ∈ [p.key] := by
    intro p asked hb
    rcases r.register_cases p asked with ⟨hstate, -⟩ | ⟨hadmits, -, hstate⟩
    · rw [hstate] at hb
      exact .inl hb
    · rw [hstate, h.bindings_bind hadmits.free] at hb
      refine (List.mem_append.1 hb).imp id fun hnew => ?_
      rw [List.mem_singleton.1 hnew]
      exact List.mem_singleton_self _
  have hunregister : ∀ s, b ∈ (r.unregister s).state.bindings → b ∈ r.bindings := by
    intro s hb
    rw [h.bindings_unregister] at hb
    exact (List.mem_filter.1 hb).1
  cases c with
  | register p asked => exact hregister p asked hb
  | registerWith p asked internal => exact hregister p asked hb
  | registerInternal p asked => exact hregister p asked hb
  | unregister s => exact .inl (hunregister s hb)
  | setBlocked name =>
    refine .inl (hunregister (.name name) ?_)
    rw [Registry.call, Registry.setBlocked_state, Registry.block_eq] at hb
    exact hb
  | addSpecs container =>
    rw [Registry.call, Registry.addSpecs_state] at hb
    exact .inl hb

namespace Manager

/-- Loading an entry point does not change where plugins are found. -/
theorem discovery?_loadEntryPoint (m : Manager) (resolver : Resolver) (d : Distribution)
    (e : EntryPoint) : (m.loadEntryPoint resolver d e).state.discovery? = m.discovery? := by
  refine loadEntryPoint_induction (P := (·.discovery? = m.discovery?)) (fun _ _ _ hn => hn)
    (fun n finding hn => ?_) (fun n p asked hn => ?_) rfl resolver d e
  · rw [disable_eq]
    exact hn
  · exact (call_frame (f := (·.discovery?)) (fun _ _ _ _ _ => rfl) n (.register p asked)).trans hn

/-- A run that can happen: what it hands over exists by then. -/
def Feasible (m : Manager) : List Op → Prop
  | [] => True
  | op :: rest => (∀ key ∈ op.objects, m.supply.Has key) ∧ (m.perform op).Feasible rest

/-- Every object that is bound, or that the discovery yields again and again, exists. -/
structure Genuine (m : Manager) : Prop where
  coherent : m.Coherent
  bound : ∀ b ∈ m.registry.bindings, m.supply.Has b.plugin.key
  lent : ∀ discovery, m.discovery? = some discovery → ∀ key ∈ discovery.resolver.lent,
    m.supply.Has key

/-- In a new manager nothing is bound. -/
theorem genuine_new (project : String) : (Manager.new project).Genuine :=
  ⟨coherent_new project, fun _ hb => (nomatch hb), fun _ hd => (nomatch hd)⟩

namespace Genuine

variable {m : Manager} (h : m.Genuine)
include h

/-- An object that is made next is bound to nothing. -/
theorem nameOf?_next (line : String) (d : PluginDef) :
    m.registry.nameOf? (m.supply.next line d).1.key = none := by
  cases hname : m.registry.nameOf? (m.supply.next line d).1.key with
  | none => rfl
  | some name =>
    obtain ⟨p, hp, hkey⟩ := (h.coherent.registry.nameOf?_eq_some_iff _ name).1 hname
    have hmem : ⟨name, p⟩ ∈ m.registry.bindings := h.coherent.registry.mem_bindings_iff.2 hp
    exact absurd (hkey ▸ h.bound _ hmem) (m.supply.not_has_next line d)

/-- A call that hands over what exists binds only what exists. -/
theorem call {c : Call} (hc : ∀ key ∈ c.objects, m.supply.Has key) : (m.call c).2.Genuine := by
  -- a call moves neither the supply nor the discovery, so only what is bound can be new
  have hsupply : (m.call c).2.supply = m.supply := call_frame (fun _ _ _ _ _ => rfl) m c
  have hdiscovery : (m.call c).2.discovery? = m.discovery? :=
    call_frame (fun _ _ _ _ _ => rfl) m c
  have hregistry : (m.call c).2.registry = (m.registry.call c).2 :=
    (congrArg (·.2) (h.coherent.registry_call c)).symm
  refine ⟨h.coherent.call c, fun b hb => ?_, ?_⟩
  · rw [hregistry] at hb
    rw [hsupply]
    rcases h.coherent.registry.mem_bindings_call c hb with hold | hnew
    · exact h.bound b hold
    · exact hc _ hnew
  · rw [hsupply, hdiscovery]
    exact h.lent

/-- Recording a finding binds nothing, and no object is lost by it. -/
theorem recordWith {supply : Supply} (hsupply : ∀ key, m.supply.Has key → supply.Has key)
    (finding : Finding) : (m.recordWith supply finding).Genuine :=
  ⟨h.coherent.recordWith supply finding, fun b hb => hsupply _ (h.bound b hb),
    fun discovery hd key hkey => hsupply key (h.lent discovery hd key hkey)⟩

/-- Nor does disabling a plugin. -/
theorem disable (finding : Finding) : (m.disable finding).Genuine := by
  refine ⟨h.coherent.disable finding, ?_, ?_⟩ <;> rw [disable_eq]
  · exact h.bound
  · exact h.lent

/-- An entry point that leads to an object: it exists then, and so does what existed. -/
theorem resolve {discovery : Discovery} (hd : m.discovery? = some discovery) {e : EntryPoint}
    {p : Plugin} {supply : Supply}
    (hres : discovery.resolver.resolve m.supply e = .ok (p, supply)) :
    supply.Has p.key ∧ ∀ key, m.supply.Has key → supply.Has key := by
  rcases Resolver.resolve_cases hres with ⟨hfactory, rfl⟩ | ⟨line, d, -, rfl, rfl⟩
  · exact ⟨h.lent discovery hd _ (Resolver.mem_lent hfactory), fun _ hkey => hkey⟩
  · exact ⟨m.supply.has_next line d, fun _ hkey => hkey.next line d⟩

/-- An entry point binds an object that its resolver lends, or one made just then. -/
theorem loadEntryPoint {discovery : Discovery} (hd : m.discovery? = some discovery)
    (d : Distribution) (e : EntryPoint) :
    (m.loadEntryPoint discovery.resolver d e).state.Genuine := by
  rcases loadEntryPoint_cases m discovery.resolver d e with
    ⟨hm, -⟩ | ⟨p, supply, hres, -, ⟨-, -, -, hm⟩ | ⟨-, -, hm⟩⟩
  · rw [hm]
    exact h
  · rw [hm]
    exact (h.recordWith (h.resolve hd hres).2 _).disable _
  · -- registering is a call that hands over the object which was found
    rw [hm]
    refine (h.recordWith (h.resolve hd hres).2 _).call (c := .register p (some e.name)) ?_
    intro key hkey
    rw [List.mem_singleton.1 hkey]
    exact (h.resolve hd hres).1

/-- Load passes bind only what exists, entry point by entry point. -/
theorem loadAll {discovery : Discovery} (hd : m.discovery? = some discovery)
    (points : List (Distribution × EntryPoint)) :
    (m.loadAll discovery.resolver points).state.Genuine := by
  refine (loadAll_of_step (P := fun n => n.Genuine ∧ n.discovery? = some discovery) ?_ ⟨h, hd⟩
    points).1
  rintro n d e ⟨hn, hnd⟩
  exact ⟨hn.loadEntryPoint hnd d e, (discovery?_loadEntryPoint n _ d e).trans hnd⟩

/-- So does a pass over all that a discovery finds. -/
theorem load (files : Files) (group : String) (only? : Option String) :
    (m.load files group only?).state.Genuine := by
  rcases load_cases m files group only? with ⟨-, -, hm⟩ | ⟨discovery, hd, -, hm⟩
  · rw [hm]
    exact h
  · rw [hm]
    exact h.loadAll hd _

/-- Whatever is done with existing objects binds only what exists. -/
theorem perform {op : Op} (hop : ∀ key ∈ op.objects, m.supply.Has key) :
    (m.perform op).Genuine := by
  cases op with
  | call c => exact h.call hop
  | setDiscovery d =>
    refine ⟨h.coherent.congr rfl rfl rfl rfl, h.bound, fun discovery hd => ?_⟩
    cases hd
    exact hop
  | disable finding => exact h.disable finding
  | load files group only? => exact h.load files group only?

/-- In a run that can happen only what exists is ever bound. -/
theorem run {ops : List Op} (hops : m.Feasible ops) : (m.run ops).Genuine := by
  induction ops generalizing m with
  | nil => exact h
  | cons op rest ih => exact ih (h.perform hops.1) hops.2

end Genuine

/-- After every run that can happen, what is bound or yielded again and again exists. -/
theorem genuine_run (project : String) {ops : List Op} (hops : (Manager.new project).Feasible ops) :
    ((Manager.new project).run ops).Genuine :=
  (genuine_new project).run hops

end Manager

end Plugboard
