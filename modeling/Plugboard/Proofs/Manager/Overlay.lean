import Plugboard.Manager.Basic
import Plugboard.Proofs.Registry.Operations

/-!
# The tables of internal plugins

A manager answers from two layers: its own tables of internal plugins and the registry below. It is
coherent if the upper layer never says anything that the lower one does not: internal plugins are
bound under their names, and the two sets of blocked names are one.

What a coherent manager answers is then what its registry answers: look-ups agree (`plugin?_eq`,
`nameOf?_eq`, `isBlocked_eq`), and every operation has the result that it has on the registry and
leaves the registry as that operation does (`registerWith_result`, `unregister_result`,
`setBlocked_registry`). Registering and unregistering either change nothing or do one thing
(`registerWith_cases`, `unregister_cases`), and every operation keeps a manager coherent.
-/

namespace Plugboard

namespace Plugin

/-- A plugin that is asked to take its own name takes it. -/
theorem registeredName_derivedName (p : Plugin) :
    p.registeredName (some p.derivedName) = p.derivedName := ite_self p.derivedName

/-- To ask for the name that a plugin would be registered under changes nothing. -/
theorem registeredName_registeredName (p : Plugin) (asked : Option String) :
    p.registeredName (some (p.registeredName asked)) = p.registeredName asked := by
  cases asked with
  | none => exact p.registeredName_derivedName
  | some name =>
    by_cases hname : name = ""
    · have hderived : p.registeredName (some name) = p.derivedName := if_pos hname
      rw [hderived, p.registeredName_derivedName]
    · have hasked : p.registeredName (some name) = name := if_neg hname
      rw [hasked, hasked]

end Plugin

/-- To register a plugin under the name that it would have is to register it as it was asked. -/
theorem Registry.register_registeredName (r : Registry) (p : Plugin) (asked : Option String) :
    r.register p (some (p.registeredName asked)) = r.register p asked := by
  simp only [Registry.register, p.registeredName_registeredName]

namespace Manager

/-- The tables of internal plugins say nothing that the registry does not. -/
structure Coherent (m : Manager) : Prop where
  /-- The registry is coherent. -/
  registry : m.registry.Coherent
  /-- A name is held by one internal plugin. -/
  nodup_internalTable : (Keyed.keys m.internalTable).Nodup
  /-- An internal plugin is bound to its name. -/
  plugin?_of_internal : ∀ {name p},
    Keyed.get? name m.internalTable = some p → m.registry.plugin? name = some p
  /-- An internal object has the name that it is held under. -/
  internalName_eq_some_iff : ∀ key name, Keyed.get? key m.internalIdentities = some name ↔
    ∃ p, Keyed.get? name m.internalTable = some p ∧ p.key = key
  /-- A name that no internal plugin may have is one that no plugin may have, and the other way
      round. -/
  mem_internalBlocked_iff : ∀ name, name ∈ m.internalBlocked ↔ name ∈ m.registry.blocked

/-- A new manager has no internal plugins, so it is coherent. -/
theorem coherent_new (project : String) : (Manager.new project).Coherent where
  registry := Registry.coherent_new project
  nodup_internalTable := List.nodup_nil
  plugin?_of_internal := by simp [new]
  internalName_eq_some_iff := by simp [new]
  mem_internalBlocked_iff := by simp [new, Registry.new]

/-! ## Look-ups -/

namespace Coherent

variable {m : Manager} (h : m.Coherent)
include h

/-- A name is blocked for the manager if it is for the registry. -/
theorem isBlocked_eq (name : String) : m.isBlocked name = m.registry.isBlocked name := by
  rw [isBlocked, Registry.isBlocked, Bool.eq_iff_iff]
  simp [h.mem_internalBlocked_iff]

/-- The plugin under a name is the one that the registry has. -/
theorem plugin?_eq (name : String) : m.plugin? name = m.registry.plugin? name := by
  rw [plugin?]
  split
  · -- a name that is blocked below holds nothing there
    rename_i hblocked
    rw [List.contains_iff_mem, h.mem_internalBlocked_iff] at hblocked
    exact (h.registry.unbound name hblocked).symm
  · cases hget : Keyed.get? name m.internalTable with
    | none => rfl
    | some p => exact (h.plugin?_of_internal hget).symm

/-- So a name is bound for the manager if it is for the registry. -/
theorem hasPlugin_eq (name : String) : m.hasPlugin name = m.registry.hasPlugin name := by
  rw [hasPlugin, h.plugin?_eq, Registry.hasPlugin]

/-- An internal object has its name in the registry, too. -/
theorem nameOf?_of_internal {key : PluginKey} {name : String}
    (hkey : Keyed.get? key m.internalIdentities = some name) :
    m.registry.nameOf? key = some name := by
  obtain ⟨p, hp, hpk⟩ := (h.internalName_eq_some_iff key name).1 hkey
  exact (h.registry.nameOf?_eq_some_iff key name).2 ⟨p, h.plugin?_of_internal hp, hpk⟩

/-- The name of an object is the one that the registry has for it. -/
theorem nameOf?_eq (key : PluginKey) : m.nameOf? key = m.registry.nameOf? key := by
  rw [nameOf?]
  cases hbase : m.registry.nameOf? key with
  | some name => rfl
  | none =>
    cases hkey : Keyed.get? key m.internalIdentities with
    | none => rfl
    | some name =>
      rw [h.nameOf?_of_internal hkey] at hbase
      cases hbase

/-- So an object is registered with the manager if it is with the registry. -/
theorem isRegistered_eq (key : PluginKey) : m.isRegistered key = m.registry.isRegistered key := by
  rw [isRegistered, h.nameOf?_eq, Registry.isRegistered]

/-- A name that is free in the registry is free among the internal plugins. -/
theorem get?_internalTable_eq_none {name : String} (hfree : m.registry.plugin? name = none) :
    Keyed.get? name m.internalTable = none := by
  cases hget : Keyed.get? name m.internalTable with
  | none => rfl
  | some p =>
    rw [h.plugin?_of_internal hget] at hfree
    cases hfree

/-- An object that the registry does not know is not an internal plugin. -/
theorem get?_internalIdentities_eq_none {key : PluginKey}
    (hkey : m.registry.nameOf? key = none) : Keyed.get? key m.internalIdentities = none := by
  cases hget : Keyed.get? key m.internalIdentities with
  | none => rfl
  | some name =>
    rw [h.nameOf?_of_internal hget] at hkey
    cases hkey

/-- The name of a binding is held by an internal plugin exactly if its plugin is internal. -/
theorem holdsInternal_eq {b : Binding} (hb : b ∈ m.registry.bindings) :
    m.holdsInternal b.name = m.isInternal b.plugin.key := by
  have hbound := h.registry.mem_bindings_iff.1 hb
  rw [holdsInternal, isInternal, Bool.eq_iff_iff, Option.isSome_iff_exists,
    Option.isSome_iff_exists]
  -- the two tables are one relation, read from names and from objects
  constructor
  · rintro ⟨p, hp⟩
    have hplugin : p = b.plugin := Option.some.inj ((h.plugin?_of_internal hp).symm.trans hbound)
    exact ⟨b.name, (h.internalName_eq_some_iff _ _).2 ⟨p, hp, hplugin ▸ rfl⟩⟩
  · rintro ⟨name, hname⟩
    have hbase := (h.registry.nameOf?_eq_some_iff b.plugin.key b.name).2 ⟨_, hbound, rfl⟩
    have hsame : name = b.name :=
      Option.some.inj ((h.nameOf?_of_internal hname).symm.trans hbase)
    obtain ⟨p, hp, -⟩ := (h.internalName_eq_some_iff _ _).1 hname
    exact ⟨p, hsame ▸ hp⟩

end Coherent

/-! ## Registering -/

/-- A manager after a plugin was bound to a name. -/
def bindAs (m : Manager) (name : String) (p : Plugin) (internal : Bool) : Manager :=
  { m with
    registry := m.registry.bind name p
    internalTable := if internal then Keyed.put name p m.internalTable else m.internalTable
    internalIdentities :=
      if internal then Keyed.put p.key name m.internalIdentities else m.internalIdentities }

/-- Binding an internal plugin changes the table of names at its name alone; binding another one
    does not change it. -/
theorem get?_internalTable_bindAs (m : Manager) (name : String) (p : Plugin) (internal : Bool)
    (asked : String) :
    Keyed.get? asked (m.bindAs name p internal).internalTable =
      if internal ∧ asked = name then some p else Keyed.get? asked m.internalTable := by
  cases internal with
  | false => simp [bindAs]
  | true =>
    by_cases hname : asked = name
    · simp [bindAs, hname, Keyed.get?_put_self]
    · simp [bindAs, hname, Keyed.get?_put_of_ne hname]

/-- Nor the table of objects, but at the object that is bound. -/
theorem get?_internalIdentities_bindAs (m : Manager) (name : String) (p : Plugin)
    (internal : Bool) (key : PluginKey) :
    Keyed.get? key (m.bindAs name p internal).internalIdentities =
      if internal ∧ key = p.key then some name else Keyed.get? key m.internalIdentities := by
  cases internal with
  | false => simp [bindAs]
  | true =>
    by_cases hkey : key = p.key
    · simp [bindAs, hkey, Keyed.get?_put_self]
    · simp [bindAs, hkey, Keyed.get?_put_of_ne hkey]

namespace Coherent

variable {m : Manager} (h : m.Coherent)
include h

/-- A registration has the result that it has on the registry alone. -/
theorem registerWith_result (p : Plugin) (asked : Option String) (internal : Bool) :
    (m.registerWith p asked internal).result = (m.registry.register p asked).result := by
  simp only [registerWith, Registry.register_registeredName, h.nameOf?_eq, h.isBlocked_eq]
  cases hkey : m.registry.nameOf? p.key with
  | some existing => simp [Registry.register, hkey]
  | none =>
    cases hblocked : m.registry.isBlocked (p.registeredName asked) with
    | true => simp [Registry.register, hkey, hblocked]
    | false =>
      simp only [Bool.false_eq_true, ↓reduceIte]
      split <;> rename_i hresult <;> exact hresult.symm

/-- A registration either changes nothing, on either layer, and answers with no name, or binds the
    plugin. -/
theorem registerWith_cases (p : Plugin) (asked : Option String) (internal : Bool) :
    ((m.registerWith p asked internal).state = m ∧
        (m.registry.register p asked).state = m.registry ∧
        ∀ name, (m.registerWith p asked internal).result ≠ .ok (some name)) ∨
      (m.registry.Admits p (p.registeredName asked) ∧
        (m.registerWith p asked internal).result = .ok (some (p.registeredName asked)) ∧
        (m.registry.register p asked).state = m.registry.bind (p.registeredName asked) p ∧
        (m.registerWith p asked internal).state =
          m.bindAs (p.registeredName asked) p internal) := by
  -- the registry decides, since it is asked under the same name
  rcases m.registry.register_cases p asked with ⟨hstate, hname⟩ | ⟨hadmits, hresult, hstate⟩
  · refine .inl ⟨?_, hstate, fun name => h.registerWith_result p asked internal ▸ hname name⟩
    simp only [registerWith, Registry.register_registeredName]
    split
    · rfl
    · split
      · rfl
      · split
        · rfl
        · rfl
        · rename_i bound hbound
          exact absurd hbound (hname bound)
  · refine .inr ⟨hadmits, (h.registerWith_result p asked internal).trans hresult, hstate, ?_⟩
    simp only [registerWith, Registry.register_registeredName, h.nameOf?_eq, h.isBlocked_eq,
      hadmits.unregistered, hadmits.allowed, hresult, hstate]
    rfl

/-- Registering with a manager does to its registry what registering there does. -/
theorem registerWith_registry (p : Plugin) (asked : Option String) (internal : Bool) :
    (m.registerWith p asked internal).state.registry = (m.registry.register p asked).state := by
  rcases h.registerWith_cases p asked internal with ⟨hm, hr, -⟩ | ⟨-, -, hr, hm⟩
  · rw [hm, hr]
  · rw [hm, hr]
    rfl

/-- Binding a plugin that the registry admits keeps the layers together. -/
theorem bindAs {name : String} {p : Plugin} (hadmits : m.registry.Admits p name)
    (internal : Bool) : (m.bindAs name p internal).Coherent where
  registry := h.registry.bind hadmits.unregistered hadmits.free
    (by simpa [Registry.isBlocked] using hadmits.allowed)
  nodup_internalTable := by
    cases internal with
    | false => exact h.nodup_internalTable
    | true => exact Keyed.nodup_keys_put h.nodup_internalTable name p
  plugin?_of_internal := by
    intro n q hq
    have hregistry : (m.bindAs name p internal).registry = m.registry.bind name p := rfl
    rw [get?_internalTable_bindAs] at hq
    rw [hregistry, Registry.plugin?_bind]
    by_cases hn : n = name
    · -- a name that is free holds no internal plugin
      cases internal with
      | true => simpa [hn] using hq
      | false =>
        have hbound := h.plugin?_of_internal (by simpa using hq)
        rw [hn, hadmits.free] at hbound
        cases hbound
    · rw [if_neg hn]
      exact h.plugin?_of_internal (by simpa [hn] using hq)
  internalName_eq_some_iff := by
    intro key n
    rw [get?_internalIdentities_bindAs, get?_internalTable_bindAs]
    cases internal with
    | false => simpa using h.internalName_eq_some_iff key n
    | true =>
      -- what is admitted is new to the upper layer, too, as object and as name
      have hnoKey : ∀ q, Keyed.get? n m.internalTable = some q → q.key ≠ p.key := fun q hq =>
        h.registry.key_ne_of_nameOf?_eq_none hadmits.unregistered (h.plugin?_of_internal hq)
      have hnoName : ∀ k, Keyed.get? k m.internalIdentities ≠ some name := by
        intro k hk
        obtain ⟨q, hq, -⟩ := (h.internalName_eq_some_iff k name).1 hk
        have hbound := h.plugin?_of_internal hq
        rw [hadmits.free] at hbound
        cases hbound
      by_cases hk : key = p.key <;> by_cases hn : n = name
      · simp [hk, hn]
      · have hnone : ¬∃ q, Keyed.get? n m.internalTable = some q ∧ q.key = p.key := by
          rintro ⟨q, hq, hqp⟩
          exact hnoKey q hq hqp
        simp [hk, hn, hnone, Ne.symm hn]
      · simp [hk, hn, hnoName, Ne.symm hk]
      · simp [hk, hn, h.internalName_eq_some_iff]
  mem_internalBlocked_iff := h.mem_internalBlocked_iff

/-- Registering keeps a manager coherent. -/
theorem registerWith (p : Plugin) (asked : Option String) (internal : Bool) :
    (m.registerWith p asked internal).state.Coherent := by
  rcases h.registerWith_cases p asked internal with ⟨hm, -, -⟩ | ⟨hadmits, -, -, hm⟩
  · rw [hm]
    exact h
  · rw [hm]
    exact h.bindAs hadmits internal

end Coherent

/-! ## Unregistering -/

/-- A manager after the plugin bound to a name was unbound. -/
def unbind (m : Manager) (name : String) (p : Plugin) : Manager :=
  { m with registry := m.registry.unbind name p }.dropInternal p.key

/-- Dropping an internal plugin touches the two tables of internal plugins only. -/
theorem dropInternal_eq (m : Manager) (key : PluginKey) :
    m.dropInternal key =
      { m with
        internalTable := (m.dropInternal key).internalTable
        internalIdentities := (m.dropInternal key).internalIdentities } := by
  rw [dropInternal]
  split <;> rfl

/-- Unbinding does to the registry what it does to a registry alone. -/
theorem unbind_registry (m : Manager) (name : String) (p : Plugin) :
    (m.unbind name p).registry = m.registry.unbind name p := by
  rw [unbind, dropInternal_eq]

/-- Unbinding frees no blocked name. -/
theorem unbind_internalBlocked (m : Manager) (name : String) (p : Plugin) :
    (m.unbind name p).internalBlocked = m.internalBlocked := by
  rw [unbind, dropInternal_eq]

/-- Unbinding takes the object out of the table of objects. -/
theorem get?_internalIdentities_unbind (m : Manager) (name : String) (p : Plugin)
    (key : PluginKey) :
    Keyed.get? key (m.unbind name p).internalIdentities =
      if key = p.key then none else Keyed.get? key m.internalIdentities := by
  simp only [unbind, dropInternal]
  -- the entry is erased only if there is one
  split
  · rename_i hnone
    split
    · rename_i hkey
      rw [hkey]
      exact hnone
    · rfl
  · split
    · rename_i hkey
      rw [hkey]
      exact Keyed.get?_erase_self p.key m.internalIdentities
    · rename_i hkey
      exact Keyed.get?_erase_of_ne hkey m.internalIdentities

/-- Names stay distinct where some are taken out. -/
theorem nodup_internalTable_unbind (m : Manager) (name : String) (p : Plugin)
    (h : (Keyed.keys m.internalTable).Nodup) :
    (Keyed.keys (m.unbind name p).internalTable).Nodup := by
  simp only [unbind, dropInternal]
  split
  · exact h
  · exact h.sublist (List.filter_sublist.map _)

namespace Coherent

variable {m : Manager} (h : m.Coherent)
include h

/-- Only the name that is unbound can leave the internal ones. -/
theorem get?_internalTable_unbind {name : String} {p : Plugin}
    (hp : m.registry.plugin? name = some p) (asked : String) :
    Keyed.get? asked (m.unbind name p).internalTable =
      if asked = name then none else Keyed.get? asked m.internalTable := by
  have hname := (h.registry.nameOf?_eq_some_iff p.key name).2 ⟨p, hp, rfl⟩
  simp only [Manager.unbind, dropInternal]
  split
  · rename_i hnone
    split
    · rename_i hasked
      subst hasked
      cases hget : Keyed.get? asked m.internalTable with
      | none => rfl
      | some q =>
        -- an internal plugin under the name would be the one that is bound
        have hq : q = p := Option.some.inj ((h.plugin?_of_internal hget).symm.trans hp)
        have hkey := (h.internalName_eq_some_iff p.key asked).2 ⟨q, hget, hq ▸ rfl⟩
        exact absurd (hnone.symm.trans hkey) (by simp)
    · rfl
  · rename_i held hheld
    -- the object is internal, and its name is the one that is unbound
    have hsame : held = name := Option.some.inj ((h.nameOf?_of_internal hheld).symm.trans hname)
    subst hsame
    split
    · rename_i hasked
      rw [hasked]
      exact Keyed.get?_erase_self held m.internalTable
    · rename_i hasked
      exact Keyed.get?_erase_of_ne hasked m.internalTable

/-- What the manager refuses to unregister is not bound. -/
theorem unregister_of_refuses {s : Selector} (hs : m.refuses s = true) :
    m.registry.unregister s = { result := none, state := m.registry } := by
  cases s with
  | object key => cases hs
  | name name =>
    have hblocked := (h.mem_internalBlocked_iff name).1 (by simpa [refuses] using hs)
    simp [Registry.unregister, Registry.selected?, h.registry.unbound name hblocked]

/-- An unregistration has the result that it has on the registry alone. -/
theorem unregister_result (s : Selector) :
    (m.unregister s).result = (m.registry.unregister s).result := by
  rw [Manager.unregister]
  split
  · rename_i hs
    rw [h.unregister_of_refuses hs]
  · cases hresult : (m.registry.unregister s).result with
    | none => simp only [hresult]
    | some p => simp only [hresult]

/-- An unregistration either finds nothing and changes nothing, or unbinds what it answers with. -/
theorem unregister_cases (s : Selector) :
    ((m.unregister s).state = m ∧ (m.registry.unregister s).state = m.registry ∧
        (m.unregister s).result = none) ∨
      ∃ name p, m.registry.selected? s = some name ∧ m.registry.plugin? name = some p ∧
        (m.unregister s).result = some p ∧
        (m.registry.unregister s).state = m.registry.unbind name p ∧
        (m.unregister s).state = m.unbind name p := by
  -- what the manager refuses the registry refuses, too
  rcases m.registry.unregister_cases s with
    ⟨hstate, hresult⟩ | ⟨name, p, hname, hp, hresult, hstate⟩
  · refine .inl ⟨?_, hstate, (h.unregister_result s).trans hresult⟩
    simp only [Manager.unregister, hresult]
    split <;> rfl
  · refine .inr ⟨name, p, hname, hp, (h.unregister_result s).trans hresult, hstate, ?_⟩
    rw [Manager.unregister]
    split
    · rename_i hs
      rw [h.unregister_of_refuses hs] at hresult
      cases hresult
    · simp only [hresult, hstate]
      rfl

/-- Unregistering does to the registry of a manager what it does to a registry alone. -/
theorem unregister_registry (s : Selector) :
    (m.unregister s).state.registry = (m.registry.unregister s).state := by
  rcases h.unregister_cases s with ⟨hm, hr, -⟩ | ⟨name, p, -, -, -, hr, hm⟩
  · rw [hm, hr]
  · rw [hm, hr, unbind_registry]

/-- Unbinding a bound plugin keeps the layers together. -/
theorem unbind {name : String} {p : Plugin} (hp : m.registry.plugin? name = some p) :
    (m.unbind name p).Coherent where
  registry := by
    rw [unbind_registry]
    exact h.registry.unbind hp
  nodup_internalTable := nodup_internalTable_unbind m name p h.nodup_internalTable
  plugin?_of_internal := by
    intro n q hq
    rw [h.get?_internalTable_unbind hp] at hq
    rw [unbind_registry, Registry.plugin?_unbind]
    by_cases hn : n = name
    · simp [hn] at hq
    · rw [if_neg hn] at hq ⊢
      exact h.plugin?_of_internal hq
  internalName_eq_some_iff := by
    intro key n
    have hname := (h.registry.nameOf?_eq_some_iff p.key name).2 ⟨p, hp, rfl⟩
    rw [get?_internalIdentities_unbind, h.get?_internalTable_unbind hp]
    -- the object and the name that go belong together, so an entry has both or neither
    by_cases hk : key = p.key <;> by_cases hn : n = name
    · simp [hk, hn]
    · have hnot : ¬∃ q, Keyed.get? n m.internalTable = some q ∧ q.key = p.key := by
        intro hq
        have hn' := h.nameOf?_of_internal ((h.internalName_eq_some_iff p.key n).2 hq)
        exact hn (Option.some.inj (hn'.symm.trans hname))
      simp [hk, hn, hnot]
    · -- another object with this name would be the plugin itself
      have hnot : Keyed.get? key m.internalIdentities ≠ some name := by
        intro hkey
        obtain ⟨q, hq, hqk⟩ := (h.internalName_eq_some_iff key name).1 hkey
        have hqp : q = p := Option.some.inj ((h.plugin?_of_internal hq).symm.trans hp)
        exact hk (hqk.symm.trans (hqp ▸ rfl))
      simp [hk, hn, hnot]
    · simp [hk, hn, h.internalName_eq_some_iff]
  mem_internalBlocked_iff := by
    have hblocked : (m.registry.unbind name p).blocked = m.registry.blocked := rfl
    rw [unbind_registry, unbind_internalBlocked, hblocked]
    exact h.mem_internalBlocked_iff

/-- Unregistering keeps a manager coherent. -/
theorem unregister (s : Selector) : (m.unregister s).state.Coherent := by
  rcases h.unregister_cases s with ⟨hm, -, -⟩ | ⟨name, p, -, hp, -, -, hm⟩
  · rw [hm]
    exact h
  · rw [hm]
    exact h.unbind hp

end Coherent

/-! ## Blocking and specifying -/

/-- Adds a name to the blocked ones of both layers, unless it is among them. -/
def block (m : Manager) (name : String) : Manager :=
  { m with
    registry := m.registry.block name
    internalBlocked :=
      if m.internalBlocked.contains name then m.internalBlocked else m.internalBlocked ++ [name] }

/-- Blocking adds one name. -/
theorem mem_internalBlocked_block (m : Manager) (name asked : String) :
    asked ∈ (m.block name).internalBlocked ↔ asked = name ∨ asked ∈ m.internalBlocked := by
  by_cases hname : name ∈ m.internalBlocked
  · simp only [block, List.contains_iff_mem, hname, ↓reduceIte, iff_or_self]
    rintro rfl
    exact hname
  · simp [block, hname, or_comm]

namespace Coherent

variable {m : Manager} (h : m.Coherent)
include h

/-- Blocking a name first frees it, on both layers. -/
theorem setBlocked_state (name : String) :
    (m.setBlocked name).state = (m.unregister (.name name)).state.block name := by
  have hfree : (m.unregister (.name name)).state.registry.plugin? name = none := by
    rw [h.unregister_registry]
    exact Registry.plugin?_unregister_name m.registry name
  -- the registry frees the name once more, which finds nothing to do
  have hblocked : ((m.unregister (.name name)).state.registry.setBlocked name).state =
      (m.unregister (.name name)).state.registry.block name := by
    rw [Registry.setBlocked_state]
    simp only [Registry.unregister, Registry.selected?, hfree]
  simp only [Manager.setBlocked, hblocked, Manager.block]

/-- Blocking a name does to the registry of a manager what it does to a registry alone. -/
theorem setBlocked_registry (name : String) :
    (m.setBlocked name).state.registry = (m.registry.setBlocked name).state := by
  rw [h.setBlocked_state, Registry.setBlocked_state, ← h.unregister_registry]
  rfl

/-- A name to which nothing is bound can be blocked. -/
theorem block {name : String} (hfree : m.registry.plugin? name = none) :
    (m.block name).Coherent where
  registry := h.registry.block hfree
  nodup_internalTable := h.nodup_internalTable
  plugin?_of_internal := by
    intro n q hq
    have hplugin : (m.registry.block name).plugin? = m.registry.plugin? :=
      Registry.plugin?_block m.registry name
    exact hplugin ▸ h.plugin?_of_internal hq
  internalName_eq_some_iff := h.internalName_eq_some_iff
  mem_internalBlocked_iff := by
    intro n
    -- both layers block the name
    have hregistry : (m.block name).registry = m.registry.block name := rfl
    rw [hregistry, mem_internalBlocked_block, Registry.mem_blocked_block,
      h.mem_internalBlocked_iff]

/-- Blocking a name keeps a manager coherent, as its plugin is taken out before. -/
theorem setBlocked (name : String) : (m.setBlocked name).state.Coherent := by
  rw [h.setBlocked_state]
  refine (h.unregister _).block ?_
  rw [h.unregister_registry]
  exact Registry.plugin?_unregister_name m.registry name

/-- Specifications have no part in coherence. -/
theorem addSpecs (container : SpecContainer) : (m.addSpecs container).state.Coherent where
  registry := h.registry.addSpecs container
  nodup_internalTable := h.nodup_internalTable
  plugin?_of_internal := by
    intro n q hq
    have hregistry : (m.addSpecs container).state.registry =
        (m.registry.addSpecs container).state := rfl
    rw [hregistry, Registry.addSpecs_state]
    exact h.plugin?_of_internal hq
  internalName_eq_some_iff := h.internalName_eq_some_iff
  mem_internalBlocked_iff := by
    intro n
    have hregistry : (m.addSpecs container).state.registry =
        (m.registry.addSpecs container).state := rfl
    rw [hregistry, Registry.addSpecs_state]
    exact h.mem_internalBlocked_iff n

end Coherent

end Manager

end Plugboard
