import Plugboard.Proofs.Registry.Specifications

/-!
# Handlers conform to specifications

A handler may be stored before its hook is specified or after. It is checked on whichever side comes
second: a registration checks the new handlers against the stored specifications, and a container of
specifications is checked against the stored handlers as a whole, before the first of it is stored.
So whatever is stored fits (`Conforms`), even where storing a container stops half way.
-/

namespace Plugboard

namespace Registry

/-- Every stored handler of a hook that has a stored specification fits it. -/
def Conforms (r : Registry) : Prop :=
  ∀ hook spec, r.specs.get? hook = some spec →
    ∀ entry ∈ r.hooks.impls hook, spec.Covers entry.impl

/-- A new registry has no handlers that could fail to conform. -/
theorem conforms_new (project : String) : (Registry.new project).Conforms :=
  fun _ _ _ _ hentry => nomatch hentry

/-- Specifications and handlers are all that conformance is about; to have fewer handlers does no
    harm. -/
theorem Conforms.mono {r next : Registry} (h : r.Conforms) (hspecs : next.specs = r.specs)
    (himpls : ∀ hook, next.hooks.impls hook ⊆ r.hooks.impls hook) : next.Conforms := by
  intro hook spec hspec entry hentry
  rw [hspecs] at hspec
  exact h hook spec hspec entry (himpls hook hentry)

/-- Binding a plugin whose handlers fit stores nothing that does not. -/
theorem Conforms.bind {r : Registry} (h : r.Conforms) {name : String} {p : Plugin}
    (hadmits : r.Admits p name) : (r.bind name p).Conforms := by
  intro hook spec hspec entry hentry
  have hhooks : (r.bind name p).hooks =
      r.hooks.registerAll (p.impls.map (⟨·, name, p.key⟩)) := rfl
  rw [hhooks, HookTable.impls_registerAll, List.mem_append] at hentry
  rcases hentry with hold | hnew
  · exact h hook spec hspec entry hold
  · -- a new handler was checked against the specification that is stored now
    obtain ⟨hmem, hhook⟩ := List.mem_filter.1 hnew
    obtain ⟨impl, himpl, rfl⟩ := List.mem_map.1 hmem
    obtain rfl : impl.hook = hook := by simpa using hhook
    exact (verifyImpls_eq_ok_iff r name p.impls).1 hadmits.fits impl himpl spec hspec

/-- Registering keeps the handlers conforming, since new ones are checked. -/
theorem Conforms.register {r : Registry} (h : r.Conforms) (p : Plugin) (asked : Option String) :
    (r.register p asked).state.Conforms := by
  rcases r.register_cases p asked with ⟨hstate, -⟩ | ⟨hadmits, -, hstate⟩
  · rw [hstate]
    exact h
  · rw [hstate]
    exact h.bind hadmits

/-- So does unregistering, which only takes handlers away. -/
theorem Conforms.unregister {r : Registry} (h : r.Conforms) (hcoherent : r.Coherent)
    (s : Selector) : (r.unregister s).state.Conforms := by
  rcases r.unregister_cases s with ⟨hstate, -⟩ | ⟨name, p, -, -, -, hstate⟩
  · rw [hstate]
    exact h
  · rw [hstate]
    refine h.mono rfl fun hook => ?_
    have hhooks : (r.unbind name p).hooks = r.hooks.unregister p.key := rfl
    rw [hhooks, HookTable.impls_unregister hcoherent.wellFormed]
    exact List.filter_subset_self _

/-- So does blocking a name. -/
theorem Conforms.setBlocked {r : Registry} (h : r.Conforms) (hcoherent : r.Coherent)
    (name : String) : (r.setBlocked name).state.Conforms := by
  rw [setBlocked_state, block_eq]
  exact (h.unregister hcoherent (.name name)).mono rfl fun _ => List.Subset.refl _

/-- A specification that is stored now either was stored before or passed the check. -/
theorem get?_of_addSpecs {r : Registry} {container : SpecContainer} {hook : String}
    {spec : HookSpec} (h : (r.addSpecs container).state.specs.get? hook = some spec) :
    r.specs.get? hook = some spec ∨ r.checkSpec spec = .ok () ∧ spec.name = hook := by
  rcases r.addSpecs_cases container with ⟨-, hstate, -⟩ | ⟨hpasses, -, hstate⟩
  · rw [hstate] at h
    exact .inl h
  · rw [hstate] at h
    rcases SpecTable.get?_of_addAll h with hold | ⟨hmem, hname⟩
    · exact .inl hold
    · exact .inr ⟨hpasses.2 spec hmem, hname⟩

/-- So does adding specifications, since the handlers are checked against them. -/
theorem Conforms.addSpecs {r : Registry} (h : r.Conforms) (container : SpecContainer) :
    (r.addSpecs container).state.Conforms := by
  intro hook spec hspec entry hentry
  have hhooks : (r.addSpecs container).state.hooks = r.hooks := by rw [addSpecs_state]
  rw [hhooks] at hentry
  -- the handlers stay, so a new specification has to fit those that were there
  rcases get?_of_addSpecs hspec with hold | ⟨hchecked, hname⟩
  · exact h hook spec hold entry hentry
  · exact covers_of_checkSpec hchecked (hname ▸ hentry)

end Registry

end Plugboard
