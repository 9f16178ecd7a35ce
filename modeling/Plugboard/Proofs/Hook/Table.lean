import Plugboard.Hook.Table
import Plugboard.Proofs.Text.Order

/-!
# Handlers in the table

A table is well formed if it names each hook once and keeps no hook without handlers. Registering
and unregistering keep that, and seen through `impls` they are plain list operations: registering
appends to the handlers of a hook (`impls_registerAll`), unregistering filters them
(`impls_unregister`). Unregistering takes back all that was registered for a plugin, the hooks that
were new included (`unregister_registerAll`, `WellFormed.unregister_eq_self`).

What a well-formed table lists are the hooks that have handlers, each once and in order
(`WellFormed.mem_hooks_iff`, `WellFormed.mem_hooksOf_iff`).
-/

namespace Plugboard.HookTable

/-- Each hook is named once and has handlers. -/
structure WellFormed (t : HookTable) : Prop where
  /-- The hooks are distinct. -/
  nodup : (Keyed.keys t.entries).Nodup
  /-- No hook is left without handlers. -/
  ne_nil : ∀ pair ∈ t.entries, pair.2 ≠ []

/-- The empty table is well formed. -/
theorem wellFormed_empty : WellFormed {} := ⟨List.nodup_nil, by simp⟩

/-- The pairs of a well-formed table are the hooks that have handlers, each with all of them. -/
theorem WellFormed.mem_entries_iff {t : HookTable} (h : t.WellFormed) {hook : String}
    {held : List HookEntry} : (hook, held) ∈ t.entries ↔ held ≠ [] ∧ t.impls hook = held := by
  constructor
  · intro hmem
    refine ⟨h.ne_nil _ hmem, ?_⟩
    rw [impls, (Keyed.get?_eq_some_iff h.nodup).2 hmem]
    rfl
  · rintro ⟨hne, himpls⟩
    cases hget : Keyed.get? hook t.entries with
    | none => exact absurd (by simp [impls, hget]) (himpls ▸ hne)
    | some found =>
      have hfound : found = held := by simpa [impls, hget] using himpls
      exact hfound ▸ Keyed.mem_of_get?_eq_some hget

/-! ## Listing -/

namespace WellFormed

variable {t : HookTable} (h : t.WellFormed)
include h

/-- A table names the hooks that have handlers. -/
theorem mem_keys_iff {hook : String} : hook ∈ Keyed.keys t.entries ↔ t.impls hook ≠ [] := by
  rw [Keyed.keys, List.mem_map]
  constructor
  · rintro ⟨⟨_, held⟩, hmem, rfl⟩
    obtain ⟨hne, himpls⟩ := h.mem_entries_iff.1 hmem
    rwa [himpls]
  · intro hne
    exact ⟨(hook, t.impls hook), h.mem_entries_iff.2 ⟨hne, rfl⟩, rfl⟩

/-- The hooks that are listed are those that have handlers. -/
theorem mem_hooks_iff {hook : String} : hook ∈ t.hooks ↔ t.impls hook ≠ [] := by
  rw [hooks, (Text.sort_perm _).mem_iff, h.mem_keys_iff]

/-- The hooks are listed in order, each once. -/
theorem ascending_hooks : Text.Ascending t.hooks := Text.ascending_sort h.nodup

/-- The hooks that are listed for a plugin are those that it has a handler for. -/
theorem mem_hooksOf_iff {key : PluginKey} {hook : String} :
    hook ∈ t.hooksOf key ↔ ∃ entry ∈ t.impls hook, entry.key = key := by
  rw [hooksOf, (Text.sort_perm _).mem_iff, Keyed.keys, List.mem_map]
  constructor
  · rintro ⟨⟨_, held⟩, hmem, rfl⟩
    obtain ⟨hentry, hany⟩ := List.mem_filter.1 hmem
    rw [(h.mem_entries_iff.1 hentry).2]
    simpa using hany
  · rintro ⟨entry, hentry, hkey⟩
    have hmem := h.mem_entries_iff.2 ⟨List.ne_nil_of_mem hentry, rfl⟩
    refine ⟨(hook, t.impls hook), List.mem_filter.2 ⟨hmem, ?_⟩, rfl⟩
    simpa using ⟨entry, hentry, hkey⟩

/-- So are the hooks of one plugin. -/
theorem ascending_hooksOf (key : PluginKey) : Text.Ascending (t.hooksOf key) :=
  Text.ascending_sort (h.nodup.sublist (List.filter_sublist.map _))

end WellFormed

/-! ## Registering -/

/-- Adding a handler keeps a table well formed. -/
theorem WellFormed.register {t : HookTable} (h : t.WellFormed) (entry : HookEntry) :
    (t.register entry).WellFormed := by
  constructor
  · exact Keyed.nodup_keys_put h.nodup _ _
  · intro pair hpair
    rcases Keyed.mem_put hpair with rfl | hold
    · simp
    · exact h.ne_nil pair hold

/-- So does adding many. -/
theorem WellFormed.registerAll {t : HookTable} (h : t.WellFormed) (entries : List HookEntry) :
    (t.registerAll entries).WellFormed := by
  induction entries generalizing t with
  | nil => exact h
  | cons entry rest ih => exact ih (h.register entry)

/-- Handlers that are registered one after another come last, in that order, among those of their
    hooks. -/
theorem impls_registerAll (t : HookTable) (entries : List HookEntry) (hook : String) :
    (t.registerAll entries).impls hook =
      t.impls hook ++ entries.filter (·.impl.hook = hook) := by
  induction entries generalizing t with
  | nil => simp [registerAll]
  | cons entry rest ih =>
    have hstep : t.registerAll (entry :: rest) = (t.register entry).registerAll rest := rfl
    rw [hstep, ih, impls_register]
    by_cases hk : entry.impl.hook = hook <;> simp [hk]

/-! ## Unregistering -/

/-- What is left of a hook is what the plugin did not offer, and a hook of which nothing is left
    leaves the table. -/
theorem mem_entries_unregister {t : HookTable} {key : PluginKey} {hook : String}
    {held : List HookEntry} :
    (hook, held) ∈ (t.unregister key).entries ↔
      held ≠ [] ∧ ∃ all, (hook, all) ∈ t.entries ∧ all.filter (·.key ≠ key) = held := by
  simp only [unregister, List.mem_filter, List.mem_map, Prod.mk.injEq, Prod.exists]
  constructor
  · rintro ⟨⟨name, all, hmem, rfl, hheld⟩, hne⟩
    exact ⟨by simpa using hne, all, hmem, hheld⟩
  · rintro ⟨hne, all, hmem, hheld⟩
    exact ⟨⟨hook, all, hmem, rfl, hheld⟩, by simpa using hne⟩

/-- Taking handlers away may drop hooks, and adds none. -/
theorem keys_unregister_sublist (t : HookTable) (key : PluginKey) :
    (Keyed.keys (t.unregister key).entries).Sublist (Keyed.keys t.entries) := by
  have hkeys : Keyed.keys (t.entries.map fun pair =>
      (pair.1, pair.2.filter (·.key ≠ key))) = Keyed.keys t.entries := by
    simp [Keyed.keys, Function.comp_def]
  rw [← hkeys]
  exact List.filter_sublist.map _

/-- Taking the handlers of a plugin away keeps a table well formed. -/
theorem WellFormed.unregister {t : HookTable} (h : t.WellFormed) (key : PluginKey) :
    (t.unregister key).WellFormed :=
  ⟨h.nodup.sublist (keys_unregister_sublist t key),
    fun _ hpair => (mem_entries_unregister.1 hpair).1⟩

/-- Unregistering a plugin takes its handlers, and no others, from every hook. -/
theorem impls_unregister {t : HookTable} (h : t.WellFormed) (key : PluginKey) (hook : String) :
    (t.unregister key).impls hook = (t.impls hook).filter (·.key ≠ key) := by
  by_cases hkeep : (t.impls hook).filter (·.key ≠ key) = []
  · -- nothing is left, so the hook has left the table
    rw [hkeep]
    refine Classical.byContradiction fun hne => ?_
    obtain ⟨-, all, hmem, hheld⟩ :=
      mem_entries_unregister.1 ((h.unregister key).mem_entries_iff.2 ⟨hne, rfl⟩)
    rw [(h.mem_entries_iff.1 hmem).2] at hkeep
    exact hne (hheld ▸ hkeep)
  · have hall : t.impls hook ≠ [] := by
      intro hnil
      simp [hnil] at hkeep
    have hmem := mem_entries_unregister.2 ⟨hkeep, _, h.mem_entries_iff.2 ⟨hall, rfl⟩, rfl⟩
    exact ((h.unregister key).mem_entries_iff.1 hmem).2

/-! ## Registering and unregistering -/

/-- Unregistering a plugin does not tell whether another handler of it was registered before: the
    handler goes, and so does its hook if there is no other handler. -/
theorem unregister_register (t : HookTable) (entry : HookEntry) :
    (t.register entry).unregister entry.key = t.unregister entry.key := by
  obtain ⟨entries⟩ := t
  simp only [register, impls, unregister, mk.injEq]
  -- induction on the hooks, up to the one that the handler is for
  induction entries with
  | nil => simp [Keyed.put]
  | cons pair rest ih =>
    obtain ⟨hook, held⟩ := pair
    by_cases hk : hook = entry.impl.hook
    · simp [Keyed.get?, Keyed.put, hk]
    · simp only [Keyed.get?, Keyed.put, hk, ↓reduceIte, List.map_cons, List.filter_cons, ih]

/-- What was added for a plugin goes when its handlers are taken away. -/
theorem unregister_registerAll (t : HookTable) {entries : List HookEntry} {key : PluginKey}
    (h : ∀ entry ∈ entries, entry.key = key) :
    (t.registerAll entries).unregister key = t.unregister key := by
  induction entries generalizing t with
  | nil => rfl
  | cons entry rest ih =>
    rw [List.forall_mem_cons] at h
    have hstep : t.registerAll (entry :: rest) = (t.register entry).registerAll rest := rfl
    rw [hstep, ih _ h.2, ← h.1, unregister_register]

/-- A plugin that has no handlers leaves the table as it is. -/
theorem WellFormed.unregister_eq_self {t : HookTable} (h : t.WellFormed) {key : PluginKey}
    (hkey : ∀ hook, ∀ entry ∈ t.impls hook, entry.key ≠ key) : t.unregister key = t := by
  -- no handler is taken away, so no hook runs empty and is dropped
  have hheld : ∀ pair ∈ t.entries, pair.2.filter (·.key ≠ key) = pair.2 := by
    intro pair hpair
    rw [List.filter_eq_self]
    intro entry hentry
    rw [← (h.mem_entries_iff.1 hpair).2] at hentry
    simpa using hkey pair.1 entry hentry
  have hmap : t.entries.map (fun pair => (pair.1, pair.2.filter (·.key ≠ key))) = t.entries := by
    rw [List.map_congr_left fun pair hpair => by rw [hheld pair hpair], List.map_id']
  have hfilter : t.entries.filter (fun pair => !pair.2.isEmpty) = t.entries := by
    rw [List.filter_eq_self]
    intro pair hpair
    simpa using h.ne_nil pair hpair
  obtain ⟨entries⟩ := t
  show HookTable.mk _ = HookTable.mk entries
  rw [hmap, hfilter]

end Plugboard.HookTable
