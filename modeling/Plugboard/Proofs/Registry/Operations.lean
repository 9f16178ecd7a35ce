import Mathlib.Data.List.Find
import Plugboard.Proofs.Registry.Coherence

/-!
# What the operations of a registry do

Each operation either leaves a registry as it is or does one thing to it: registering binds a plugin
(`register_cases`), unregistering unbinds one (`unregister_cases`), blocking frees a name and adds
it to the blocked ones (`setBlocked_state`), and specifying changes nothing but the specifications
(`addSpecs_state`). All four keep a registry coherent.
-/

namespace Plugboard

/-- Whether a selector means a binding. -/
def Binding.selectedBy (b : Binding) : Selector → Bool
  | .name name => b.name = name
  | .object key => b.plugin.key = key

namespace Registry

/-- What it takes to bind a plugin to a name. -/
structure Admits (r : Registry) (p : Plugin) (name : String) : Prop where
  /-- The object is not bound. -/
  unregistered : r.nameOf? p.key = none
  /-- The name is not blocked. -/
  allowed : r.isBlocked name = false
  /-- The name is not bound. -/
  free : r.plugin? name = none
  /-- The handlers fit the specifications of their hooks. -/
  fits : r.verifyImpls name p.impls = .ok ()

/-- A registration either changes nothing and answers with no name, or binds the plugin. -/
theorem register_cases (r : Registry) (p : Plugin) (asked : Option String) :
    ((r.register p asked).state = r ∧ ∀ name, (r.register p asked).result ≠ .ok (some name)) ∨
      (r.Admits p (p.registeredName asked) ∧
        (r.register p asked).result = .ok (some (p.registeredName asked)) ∧
        (r.register p asked).state = r.bind (p.registeredName asked) p) := by
  -- the four checks are made in this order, and the first that fails ends it
  cases hkey : r.nameOf? p.key with
  | some existing => exact .inl (by simp [register, hkey])
  | none =>
    cases hblocked : r.isBlocked (p.registeredName asked) with
    | true => exact .inl (by simp [register, hkey, hblocked])
    | false =>
      cases hfree : r.plugin? (p.registeredName asked) with
      | some q => exact .inl (by simp [register, hkey, hblocked, hasPlugin, hfree])
      | none =>
        cases hfits : r.verifyImpls (p.registeredName asked) p.impls with
        | error e => exact .inl (by simp [register, hkey, hblocked, hasPlugin, hfree, hfits])
        | ok u =>
          refine .inr ⟨⟨hkey, hblocked, hfree, hfits⟩, ?_⟩
          simp [register, hkey, hblocked, hasPlugin, hfree, hfits]

/-- An unregistration either finds nothing and changes nothing, or unbinds what it answers with. -/
theorem unregister_cases (r : Registry) (s : Selector) :
    ((r.unregister s).state = r ∧ (r.unregister s).result = none) ∨
      ∃ name p, r.selected? s = some name ∧ r.plugin? name = some p ∧
        (r.unregister s).result = some p ∧ (r.unregister s).state = r.unbind name p := by
  cases hs : r.selected? s with
  | none => exact .inl (by simp [unregister, hs])
  | some name =>
    cases hp : r.plugin? name with
    | none => exact .inl (by simp [unregister, hs, hp])
    | some p => exact .inr ⟨name, p, rfl, hp, by simp [unregister, hs, hp]⟩

/-- Unregistering by name leaves the name free. -/
theorem plugin?_unregister_name (r : Registry) (name : String) :
    (r.unregister (.name name)).state.plugin? name = none := by
  cases hp : r.plugin? name with
  | none => simp [unregister, selected?, hp]
  | some p => simp [unregister, selected?, hp, plugin?_unbind]

/-- Adds a name to the blocked ones, unless it is among them. -/
def block (r : Registry) (name : String) : Registry :=
  if r.isBlocked name then r else { r with blocked := r.blocked ++ [name] }

/-- Blocking changes nothing else. -/
theorem block_eq (r : Registry) (name : String) :
    r.block name = { r with blocked := (r.block name).blocked } := by
  rw [block]
  split <;> rfl

/-- Blocking a name binds and unbinds nothing. -/
theorem plugin?_block (r : Registry) (name : String) : (r.block name).plugin? = r.plugin? := by
  rw [block_eq]
  rfl

/-- It adds the name to the blocked ones. -/
theorem mem_blocked_block (r : Registry) (name asked : String) :
    asked ∈ (r.block name).blocked ↔ asked = name ∨ asked ∈ r.blocked := by
  by_cases hname : name ∈ r.blocked
  · simp only [block, isBlocked, List.contains_iff_mem, hname, ↓reduceIte]
    constructor
    · exact .inr
    · rintro (rfl | h)
      · exact hname
      · exact h
  · simp [block, isBlocked, hname, or_comm]

/-- Blocking a name first frees it. -/
theorem setBlocked_state (r : Registry) (name : String) :
    (r.setBlocked name).state = (r.unregister (.name name)).state.block name := by
  simp only [setBlocked, block]
  split <;> rfl

/-- Specifying hooks changes nothing else. -/
theorem addSpecs_state (r : Registry) (container : SpecContainer) :
    (r.addSpecs container).state = { r with specs := (r.addSpecs container).state.specs } := by
  simp only [addSpecs]
  split
  · rfl
  · split
    · rfl
    · split <;> rfl

/-! ## Coherence -/

namespace Coherent

variable {r : Registry} (h : r.Coherent)
include h

/-- Registering keeps a registry coherent. -/
theorem register (p : Plugin) (asked : Option String) : (r.register p asked).state.Coherent := by
  rcases register_cases r p asked with ⟨hstate, -⟩ | ⟨hadmits, -, hstate⟩
  · rw [hstate]
    exact h
  · rw [hstate]
    exact h.bind hadmits.unregistered hadmits.free (by simpa [isBlocked] using hadmits.allowed)

/-- So does unregistering. -/
theorem unregister (s : Selector) : (r.unregister s).state.Coherent := by
  rcases unregister_cases r s with ⟨hstate, -⟩ | ⟨name, p, -, hp, -, hstate⟩
  · rw [hstate]
    exact h
  · rw [hstate]
    exact h.unbind hp

/-- So does blocking a name to which nothing is bound. -/
theorem block {name : String} (hfree : r.plugin? name = none) : (r.block name).Coherent := by
  have hunbound : ∀ n ∈ (r.block name).blocked, r.plugin? n = none := by
    intro n hn
    rcases (mem_blocked_block r name n).1 hn with rfl | hn
    · exact hfree
    · exact h.unbound n hn
  rw [block_eq]
  exact ⟨h.nodup_order, h.mem_order_iff, h.nameOf?_eq_some_iff, hunbound, h.wellFormed, h.impls_eq⟩

/-- So does blocking any name, because what was bound to it goes first. -/
theorem setBlocked (name : String) : (r.setBlocked name).state.Coherent := by
  rw [setBlocked_state]
  exact (h.unregister _).block (plugin?_unregister_name r name)

/-- So does adding specifications. -/
theorem addSpecs (container : SpecContainer) : (r.addSpecs container).state.Coherent := by
  rw [addSpecs_state]
  exact ⟨h.nodup_order, h.mem_order_iff, h.nameOf?_eq_some_iff, h.unbound, h.wellFormed, h.impls_eq⟩

end Coherent

/-! ## Unregistering as a search -/

namespace Coherent

variable {r : Registry} (h : r.Coherent)
include h

/-- A selector means the binding of the name that it stands for. -/
theorem selectedBy_iff {b : Binding} (hb : b ∈ r.bindings) (s : Selector) :
    b.selectedBy s = true ↔ r.selected? s = some b.name := by
  cases s with
  | name name => simp [Binding.selectedBy, selected?, eq_comm]
  | object key =>
    have hbound := h.mem_bindings_iff.1 hb
    rw [selected?, h.nameOf?_eq_some_iff, hbound]
    simp [Binding.selectedBy]

/-- What is unregistered is the one binding that the selector means, if there is one. -/
theorem unregister_result (s : Selector) :
    (r.unregister s).result = (r.bindings.find? (·.selectedBy s)).map (·.plugin) := by
  cases hs : r.selected? s with
  | none =>
    have hfind : r.bindings.find? (·.selectedBy s) = none := by
      rw [List.find?_eq_none]
      intro b hb
      rw [h.selectedBy_iff hb, hs]
      exact nofun
    simp [Registry.unregister, hs, hfind]
  | some name =>
    -- an object that has a name is found by that name
    have hfind : r.bindings.find? (·.selectedBy s) = r.bindings.find? (·.name = name) := by
      refine List.find?_congr fun b hb => ?_
      rw [Bool.eq_iff_iff, h.selectedBy_iff hb, hs]
      simp [eq_comm]
    rw [hfind, ← h.plugin?_eq_find?]
    cases hp : r.plugin? name <;> simp [Registry.unregister, hs, hp]

/-- Unregistering takes out what the selector means; the other bindings keep their order. -/
theorem bindings_unregister (s : Selector) :
    (r.unregister s).state.bindings = r.bindings.filter (!·.selectedBy s) := by
  rcases unregister_cases r s with ⟨hstate, hresult⟩ | ⟨name, p, hs, hp, -, hstate⟩
  · rw [h.unregister_result, Option.map_eq_none_iff, List.find?_eq_none] at hresult
    rw [hstate, eq_comm, List.filter_eq_self]
    intro b hb
    simpa using hresult b hb
  · -- the binding of the name is the one that the selector means
    rw [hstate, bindings_unbind]
    refine List.filter_congr fun b hb => ?_
    rw [Bool.eq_iff_iff, Bool.not_eq_true', ← Bool.not_eq_true, h.selectedBy_iff hb, hs]
    simp only [ne_eq, decide_eq_true_eq, Option.some.injEq]
    exact not_congr eq_comm

end Coherent

end Registry

end Plugboard
