import Mathlib.Data.List.Nodup
import Plugboard.Proofs.Hook.Table
import Plugboard.Registry

/-!
# Coherent registries

A registry keeps its bindings in three tables and the handlers of its plugins in a fourth. It is
coherent if all four say the same: the order lists the names of the name table once, the identity
table is the name table turned round, and the handlers of each hook are what the bound plugins offer
for it, in the order of binding. Blocked names are bound to nothing.

The bindings in their order are then all there is to know about the tables. Look-ups are searches
among them (`plugin?_eq_find?`, `nameOf?_eq_find?`), binding appends one (`bindings_bind`) and
unbinding filters one out (`bindings_unbind`). Unbinding takes back what binding did to all of the
tables (`Coherent.unbind_bind`).

Every operation keeps a registry coherent.
-/

namespace Plugboard

/-- Where a label is met once in a list, a search by label finds just what carries it. -/
theorem find?_eq_some_iff_of_nodup {α κ : Type} [DecidableEq κ] {label : α → κ} {xs : List α}
    (hxs : (xs.map label).Nodup) {k : κ} {a : α} :
    xs.find? (fun x => label x = k) = some a ↔ a ∈ xs ∧ label a = k := by
  constructor
  · intro h
    exact ⟨List.mem_of_find?_eq_some h, by simpa using List.find?_some h⟩
  · rintro ⟨ha, hk⟩
    cases hfind : xs.find? (fun x => label x = k) with
    | none => exact absurd hk (by simpa using List.find?_eq_none.1 hfind a ha)
    | some b =>
      -- what is found first carries the label, and nothing else does
      have hb := List.mem_of_find?_eq_some hfind
      have hbk : label b = k := by simpa using List.find?_some hfind
      rw [List.inj_on_of_nodup_map hxs hb ha (hbk.trans hk.symm)]

/-- What is filtered out of a list contributes nothing. -/
theorem flatMap_filter {α β : Type} (xs : List α) (q : α → Bool) (f : α → List β) :
    (xs.filter q).flatMap f = xs.flatMap fun a => if q a then f a else [] := by
  induction xs with
  | nil => rfl
  | cons a rest ih => by_cases hq : q a <;> simp [hq, ih]

/-- The handlers that a bound plugin offers for a hook, in the order in which it declares them. -/
def Binding.offers (b : Binding) (hook : String) : List HookEntry :=
  (b.plugin.impls.filter (·.hook = hook)).map (⟨·, b.name, b.plugin.key⟩)

/-- What a binding offers belongs to the object that it binds. -/
theorem Binding.key_of_mem_offers {b : Binding} {hook : String} {entry : HookEntry}
    (h : entry ∈ b.offers hook) : entry.key = b.plugin.key := by
  obtain ⟨impl, -, rfl⟩ := List.mem_map.1 h
  rfl

/-- What a binding offers goes by its name. -/
theorem Binding.plugin_of_mem_offers {b : Binding} {hook : String} {entry : HookEntry}
    (h : entry ∈ b.offers hook) : entry.plugin = b.name := by
  obtain ⟨impl, -, rfl⟩ := List.mem_map.1 h
  rfl

namespace Registry

/-- The handlers that the bound plugins offer for a hook, plugin after plugin. -/
def offered (r : Registry) (hook : String) : List HookEntry :=
  r.bindings.flatMap (·.offers hook)

/-- The tables of a registry say the same. -/
structure Coherent (r : Registry) : Prop where
  /-- A name is listed once. -/
  nodup_order : r.order.Nodup
  /-- The names that are listed are the bound ones. -/
  mem_order_iff : ∀ name, name ∈ r.order ↔ ∃ p, r.plugin? name = some p
  /-- An object has the name that it is bound to. -/
  nameOf?_eq_some_iff : ∀ key name,
    r.nameOf? key = some name ↔ ∃ p, r.plugin? name = some p ∧ p.key = key
  /-- A blocked name is bound to nothing. -/
  unbound : ∀ name ∈ r.blocked, r.plugin? name = none
  /-- The table of handlers is well formed. -/
  wellFormed : r.hooks.WellFormed
  /-- The handlers of a hook are those that the bound plugins offer. -/
  impls_eq : ∀ hook, r.hooks.impls hook = r.offered hook

/-- A new registry binds nothing, so its tables agree. -/
theorem coherent_new (project : String) : (Registry.new project).Coherent where
  nodup_order := List.nodup_nil
  mem_order_iff := by simp [new, plugin?]
  nameOf?_eq_some_iff := by simp [new, plugin?, nameOf?]
  unbound := by simp [new]
  wellFormed := HookTable.wellFormed_empty
  impls_eq := fun _ => rfl

/-! ## The bindings of a coherent registry -/

/-- The plugins of the bindings are those of the registry. -/
theorem map_plugin_bindings (r : Registry) : r.bindings.map (·.plugin) = r.plugins := by
  simp only [bindings, plugins, List.map_filterMap, Option.map_map]
  congr 1
  funext name
  cases r.plugin? name <;> rfl

namespace Coherent

variable {r : Registry} (h : r.Coherent)
include h

/-- What is bound under a name is what stands in the name table. -/
theorem mem_bindings_iff {b : Binding} : b ∈ r.bindings ↔ r.plugin? b.name = some b.plugin := by
  simp only [bindings, List.mem_filterMap, Option.map_eq_some_iff]
  -- a binding is made of a name in the order; a name of the table stands in the order
  constructor
  · rintro ⟨name, -, p, hp, rfl⟩
    exact hp
  · intro hb
    exact ⟨b.name, (h.mem_order_iff _).2 ⟨_, hb⟩, b.plugin, hb, rfl⟩

/-- The names of the bindings are those of the registry, in their order. -/
theorem map_name_bindings : r.bindings.map (·.name) = r.names := by
  simp only [bindings, List.map_filterMap, Option.map_map]
  conv_rhs => rw [names, ← List.filterMap_some (l := r.order)]
  refine List.filterMap_congr fun name hname => ?_
  obtain ⟨p, hp⟩ := (h.mem_order_iff name).1 hname
  rw [hp]
  rfl

/-- Two names of one object are the same name. -/
theorem name_inj {a b : Binding} (ha : a ∈ r.bindings) (hb : b ∈ r.bindings)
    (hkey : a.plugin.key = b.plugin.key) : a.name = b.name := by
  have hna := (h.nameOf?_eq_some_iff a.plugin.key a.name).2 ⟨_, h.mem_bindings_iff.1 ha, rfl⟩
  have hnb := (h.nameOf?_eq_some_iff a.plugin.key b.name).2 ⟨_, h.mem_bindings_iff.1 hb, hkey.symm⟩
  exact Option.some.inj (hna ▸ hnb)

/-- Two plugins of one name are the same plugin. -/
theorem plugin_inj {a b : Binding} (ha : a ∈ r.bindings) (hb : b ∈ r.bindings)
    (hname : a.name = b.name) : a.plugin = b.plugin := by
  have hpa := h.mem_bindings_iff.1 ha
  have hpb := h.mem_bindings_iff.1 hb
  rw [hname, hpb] at hpa
  exact (Option.some.inj hpa).symm

/-- No name is bound twice. -/
theorem nodup_names : (r.bindings.map (·.name)).Nodup := by
  rw [h.map_name_bindings]
  exact h.nodup_order

/-- No object is bound twice. -/
theorem nodup_keys : (r.bindings.map (·.plugin.key)).Nodup :=
  List.Nodup.map_on
    (fun a ha b hb hkey => by
      -- one object has one name, and one name has one plugin
      have hname := h.name_inj ha hb hkey
      have hplugin := h.plugin_inj ha hb hname
      cases a
      cases b
      simp_all)
    (List.Nodup.of_map _ h.nodup_names)

/-- The plugin under a name is found by a search among the bindings. -/
theorem plugin?_eq_find? (name : String) :
    r.plugin? name = (r.bindings.find? (·.name = name)).map (·.plugin) := by
  -- names are distinct, so there is one binding to find
  refine Option.ext fun p => ?_
  rw [Option.map_eq_some_iff]
  constructor
  · intro hp
    exact ⟨⟨name, p⟩, (find?_eq_some_iff_of_nodup h.nodup_names).2
      ⟨h.mem_bindings_iff.2 hp, rfl⟩, rfl⟩
  · rintro ⟨b, hfind, rfl⟩
    obtain ⟨hb, rfl⟩ := (find?_eq_some_iff_of_nodup h.nodup_names).1 hfind
    exact h.mem_bindings_iff.1 hb

/-- So is the name of an object. -/
theorem nameOf?_eq_find? (key : PluginKey) :
    r.nameOf? key = (r.bindings.find? (·.plugin.key = key)).map (·.name) := by
  -- objects are distinct, so there is one binding to find
  refine Option.ext fun name => ?_
  rw [h.nameOf?_eq_some_iff, Option.map_eq_some_iff]
  constructor
  · rintro ⟨p, hp, hkey⟩
    exact ⟨⟨name, p⟩, (find?_eq_some_iff_of_nodup h.nodup_keys).2
      ⟨h.mem_bindings_iff.2 hp, hkey⟩, rfl⟩
  · rintro ⟨b, hfind, rfl⟩
    obtain ⟨hb, hkey⟩ := (find?_eq_some_iff_of_nodup h.nodup_keys).1 hfind
    exact ⟨b.plugin, h.mem_bindings_iff.1 hb, hkey⟩

/-- An object without a name is not among the bound ones. -/
theorem key_ne_of_nameOf?_eq_none {p : Plugin} (hkey : r.nameOf? p.key = none) {name : String}
    {q : Plugin} (hq : r.plugin? name = some q) : q.key ≠ p.key := by
  intro hqp
  have hn := (h.nameOf?_eq_some_iff p.key name).2 ⟨q, hq, hqp⟩
  rw [hkey] at hn
  cases hn

end Coherent

/-! ## Binding a plugin -/

/-- Binding a plugin puts it under the name, and changes no other. -/
theorem plugin?_bind (r : Registry) (name : String) (p : Plugin) (asked : String) :
    (r.bind name p).plugin? asked = if asked = name then some p else r.plugin? asked := by
  split
  · rename_i h
    rw [h]
    exact Keyed.get?_put_self name p r.table
  · rename_i h
    exact Keyed.get?_put_of_ne h p r.table

/-- Binding a plugin gives its object the name, and changes no other. -/
theorem nameOf?_bind (r : Registry) (name : String) (p : Plugin) (key : PluginKey) :
    (r.bind name p).nameOf? key = if key = p.key then some name else r.nameOf? key := by
  split
  · rename_i h
    rw [h]
    exact Keyed.get?_put_self p.key name r.identities
  · rename_i h
    exact Keyed.get?_put_of_ne h name r.identities

namespace Coherent

variable {r : Registry} (h : r.Coherent) {name : String} {p : Plugin}
include h

/-- A free name does not stand in the order. -/
theorem not_mem_order (hfree : r.plugin? name = none) : name ∉ r.order := by
  intro hmem
  obtain ⟨q, hq⟩ := (h.mem_order_iff name).1 hmem
  rw [hfree] at hq
  cases hq

/-- A new binding comes last. -/
theorem bindings_bind (hfree : r.plugin? name = none) :
    (r.bind name p).bindings = r.bindings ++ [⟨name, p⟩] := by
  have hold : r.order.filterMap (fun n => ((r.bind name p).plugin? n).map (Binding.mk n)) =
      r.bindings := by
    refine List.filterMap_congr fun n hn => ?_
    have hne : n ≠ name := fun he => h.not_mem_order hfree (he ▸ hn)
    rw [plugin?_bind, if_neg hne]
  have horder : (r.bind name p).order = r.order ++ [name] := rfl
  rw [bindings, horder, List.filterMap_append, hold]
  simp [plugin?_bind]

/-- What is bound offers its handlers behind those of all others. -/
theorem offered_bind (hfree : r.plugin? name = none) (hook : String) :
    (r.bind name p).offered hook = r.offered hook ++ Binding.offers ⟨name, p⟩ hook := by
  simp only [offered, h.bindings_bind hfree, List.flatMap_append, List.flatMap_singleton]

/-- Binding a plugin that is not bound, to a name that is neither bound nor blocked, keeps the
    tables together. -/
theorem bind (hkey : r.nameOf? p.key = none) (hfree : r.plugin? name = none)
    (hallowed : name ∉ r.blocked) : (r.bind name p).Coherent where
  nodup_order := by
    have horder : (r.bind name p).order = r.order ++ [name] := rfl
    rw [horder, List.nodup_append]
    refine ⟨h.nodup_order, List.nodup_singleton name, ?_⟩
    intro a ha b hb hab
    rw [List.mem_singleton] at hb
    exact h.not_mem_order hfree (hb ▸ hab ▸ ha)
  mem_order_iff := by
    intro n
    have horder : (r.bind name p).order = r.order ++ [name] := rfl
    rw [horder, List.mem_append, List.mem_singleton, plugin?_bind, h.mem_order_iff n]
    by_cases hn : n = name <;> simp [hn]
  nameOf?_eq_some_iff := by
    intro key n
    rw [nameOf?_bind, plugin?_bind]
    -- the new object has the new name; no other object has it, and it has no other name
    by_cases hk : key = p.key <;> by_cases hn : n = name
    · simp [hk, hn]
    · subst hk
      have hnot : ¬∃ q, r.plugin? n = some q ∧ q.key = p.key := by
        rintro ⟨q, hq, hqp⟩
        exact h.key_ne_of_nameOf?_eq_none hkey hq hqp
      simp [hn, hnot, Ne.symm hn]
    · subst hn
      -- the name was free, so no object had it
      have hnot : r.nameOf? key ≠ some n := by
        intro hk'
        obtain ⟨q, hq, -⟩ := (h.nameOf?_eq_some_iff key n).1 hk'
        rw [hfree] at hq
        cases hq
      simp [hk, hnot, Ne.symm hk]
    · simp [hk, hn, h.nameOf?_eq_some_iff]
  unbound := by
    intro n hn
    have hne : n ≠ name := fun he => hallowed (he ▸ hn)
    rw [plugin?_bind, if_neg hne]
    exact h.unbound n hn
  wellFormed := h.wellFormed.registerAll _
  impls_eq := by
    intro hook
    have hhooks : (r.bind name p).hooks =
        r.hooks.registerAll (p.impls.map (⟨·, name, p.key⟩)) := rfl
    rw [hhooks, HookTable.impls_registerAll, h.impls_eq, h.offered_bind hfree, Binding.offers,
      List.filter_map]
    rfl

end Coherent

/-! ## Unbinding a plugin -/

/-- Unbinding a plugin frees the name, and changes no other. -/
theorem plugin?_unbind (r : Registry) (name : String) (p : Plugin) (asked : String) :
    (r.unbind name p).plugin? asked = if asked = name then none else r.plugin? asked := by
  split
  · rename_i h
    rw [h]
    exact Keyed.get?_erase_self name r.table
  · rename_i h
    exact Keyed.get?_erase_of_ne h r.table

/-- Unbinding a plugin leaves its object without a name, and changes no other. -/
theorem nameOf?_unbind (r : Registry) (name : String) (p : Plugin) (key : PluginKey) :
    (r.unbind name p).nameOf? key = if key = p.key then none else r.nameOf? key := by
  split
  · rename_i h
    rw [h]
    exact Keyed.get?_erase_self p.key r.identities
  · rename_i h
    exact Keyed.get?_erase_of_ne h r.identities

/-- Unbinding takes out the binding of a name; the others keep their order. -/
theorem bindings_unbind (r : Registry) (name : String) (p : Plugin) :
    (r.unbind name p).bindings = r.bindings.filter (·.name ≠ name) := by
  have horder : (r.unbind name p).order = r.order.filter (· ≠ name) := rfl
  rw [bindings, bindings, horder, List.filterMap_filter, List.filter_filterMap]
  refine List.filterMap_congr fun n _ => ?_
  by_cases hn : n = name
  · subst hn
    cases r.plugin? n <;> simp [Option.filter]
  · rw [plugin?_unbind, if_neg hn]
    cases r.plugin? n <;> simp [Option.filter, hn]

namespace Coherent

variable {r : Registry} (h : r.Coherent) {name : String} {p : Plugin}
include h

/-- What is unbound takes its handlers with it, and those of others stay in order. -/
theorem offered_unbind (hp : r.plugin? name = some p) (hook : String) :
    (r.unbind name p).offered hook = (r.offered hook).filter (·.key ≠ p.key) := by
  have hmem : ⟨name, p⟩ ∈ r.bindings := h.mem_bindings_iff.2 hp
  rw [offered, bindings_unbind, offered, List.filter_flatMap, flatMap_filter]
  refine List.flatMap_congr fun b hb => ?_
  by_cases hname : b.name = name
  · -- the binding that goes: all its handlers carry the key of the plugin
    have hplugin : b.plugin = p := h.plugin_inj hb hmem hname
    have hnil : (b.offers hook).filter (·.key ≠ p.key) = [] := by
      rw [List.filter_eq_nil_iff]
      intro entry hentry
      simp [Binding.key_of_mem_offers hentry, hplugin]
    rw [hnil]
    simp [hname]
  · -- a binding that stays: none of them does
    have hkey : b.plugin.key ≠ p.key := fun hk => hname (h.name_inj hb hmem hk)
    have hall : (b.offers hook).filter (·.key ≠ p.key) = b.offers hook := by
      rw [List.filter_eq_self]
      intro entry hentry
      simp [Binding.key_of_mem_offers hentry, hkey]
    rw [hall]
    simp [hname]

/-- Unbinding a bound plugin keeps the tables together. -/
theorem unbind (hp : r.plugin? name = some p) : (r.unbind name p).Coherent where
  nodup_order := h.nodup_order.sublist List.filter_sublist
  mem_order_iff := by
    intro n
    have horder : (r.unbind name p).order = r.order.filter (· ≠ name) := rfl
    rw [horder, List.mem_filter, plugin?_unbind, h.mem_order_iff n]
    by_cases hn : n = name <;> simp [hn]
  nameOf?_eq_some_iff := by
    intro key n
    have hkey := (h.nameOf?_eq_some_iff p.key name).2 ⟨p, hp, rfl⟩
    rw [nameOf?_unbind, plugin?_unbind]
    -- the object and the name that go belong to each other, so they go together
    by_cases hk : key = p.key <;> by_cases hn : n = name
    · simp [hk, hn]
    · subst hk
      have hnot : ¬∃ q, r.plugin? n = some q ∧ q.key = p.key := by
        intro hq
        have hn' := (h.nameOf?_eq_some_iff p.key n).2 hq
        exact hn (Option.some.inj (hn'.symm.trans hkey))
      simp [hn, hnot]
    · subst hn
      -- only the plugin that goes had the name
      have hnot : r.nameOf? key ≠ some n := by
        intro hk'
        obtain ⟨q, hq, hqk⟩ := (h.nameOf?_eq_some_iff key n).1 hk'
        rw [hp] at hq
        cases hq
        exact hk hqk.symm
      simp [hk, hnot]
    · simp [hk, hn, h.nameOf?_eq_some_iff]
  unbound := by
    intro n hn
    rw [plugin?_unbind]
    split
    · rfl
    · exact h.unbound n hn
  wellFormed := h.wellFormed.unregister p.key
  impls_eq := by
    intro hook
    have hhooks : (r.unbind name p).hooks = r.hooks.unregister p.key := rfl
    rw [hhooks, HookTable.impls_unregister h.wellFormed, h.impls_eq, h.offered_unbind hp]

/-- To bind a new plugin to a free name and to unbind it again changes nothing. -/
theorem unbind_bind (hkey : r.nameOf? p.key = none) (hfree : r.plugin? name = none) :
    (r.bind name p).unbind name p = r := by
  have htable : Keyed.erase name (Keyed.put name p r.table) = r.table :=
    Keyed.erase_put_of_get?_eq_none hfree p
  have hidentities : Keyed.erase p.key (Keyed.put p.key name r.identities) = r.identities :=
    Keyed.erase_put_of_get?_eq_none hkey name
  have horder : (r.order ++ [name]).filter (· ≠ name) = r.order := by
    -- the name was free, so it was not in the order
    have hne : ∀ n ∈ r.order, n ≠ name := fun n hn he => h.not_mem_order hfree (he ▸ hn)
    simpa [List.filter_append] using hne
  have hhooks : (r.hooks.registerAll (p.impls.map (⟨·, name, p.key⟩))).unregister p.key =
      r.hooks := by
    have hnew : ∀ entry ∈ p.impls.map (fun impl => (⟨impl, name, p.key⟩ : HookEntry)),
        entry.key = p.key := by simp
    rw [HookTable.unregister_registerAll _ hnew]
    refine h.wellFormed.unregister_eq_self fun hook entry hentry => ?_
    -- what was there before belongs to other plugins
    rw [h.impls_eq, offered, List.mem_flatMap] at hentry
    obtain ⟨b, hb, hoffered⟩ := hentry
    rw [Binding.key_of_mem_offers hoffered]
    exact h.key_ne_of_nameOf?_eq_none hkey (h.mem_bindings_iff.1 hb)
  simp only [Registry.bind, Registry.unbind, htable, hidentities, horder, hhooks]

end Coherent

end Registry

end Plugboard
