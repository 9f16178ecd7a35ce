import Mathlib.Data.Finset.Insert
import Mathlib.Data.Finset.Dedup
import Plugboard.Proofs.Manager.Run
import Plugboard.Proofs.Registry.Checks

/-!
# The ledger of a manager

What a manager binds can be told by a single list: the bound plugins in the order in which they were
bound, each with its name and a mark if it is internal. Together with the set of blocked names and
the specifications this is the ledger. On it every call is a search, an insertion at the end or a
filter.

Every look-up and every listing of a coherent manager can be read off its ledger
(`ledger_describes`).
-/

namespace Plugboard

/-- A line of a ledger. -/
structure Entry extends Binding where
  /-- Whether the plugin is internal. -/
  internal : Bool

/-- What a manager binds, blocks and specifies. -/
structure Ledger where
  /-- The tag that specifications must carry. -/
  project : String
  /-- The bound plugins in the order in which they were bound. -/
  entries : List Entry := []
  /-- The blocked names. -/
  blocked : Finset String := ∅
  /-- The specified hooks. -/
  specs : SpecTable := {}

namespace Ledger

/-- The ledger of a project without plugins. -/
def new (project : String) : Ledger := { project }

/-- Why a plugin is refused under a name: its first handler that does not fit the specification
    of its hook. -/
def refusal? (l : Ledger) (name : String) (p : Plugin) : Option PluginError :=
  p.impls.findSome? fun impl => (l.specs.get? impl.hook).bind (mismatch? · name impl)

/-- Registers a plugin under the name given, or under its derived name if that is empty. -/
def register (l : Ledger) (p : Plugin) (asked : Option String) (internal : Bool) :
    Except PluginError (Option String) × Ledger :=
  let name := (asked.filter (· ≠ "")).getD p.derivedName
  match l.entries.find? (·.plugin.key = p.key) with
  | some entry => (.error (.alreadyRegistered entry.name), l)
  | none =>
    if name ∈ l.blocked then (.ok none, l)
    else if l.entries.any (·.name = name) then (.error (.nameConflict name), l)
    else match l.refusal? name p with
      | some e => (.error e, l)
      | none => (.ok (some name), { l with entries := l.entries ++ [⟨⟨name, p⟩, internal⟩] })

/-- Takes out the entry that a selector means, and answers with its plugin. -/
def unregister (l : Ledger) (s : Selector) : Option Plugin × Ledger :=
  ((l.entries.find? (·.selectedBy s)).map (·.plugin),
    { l with entries := l.entries.filter (!·.selectedBy s) })

/-- Takes out the entry of a name and blocks the name. -/
def setBlocked (l : Ledger) (name : String) : Ledger :=
  { l with
    entries := l.entries.filter (·.name ≠ name)
    blocked := insert name l.blocked }

/-- Why a specification is refused: it contradicts the one there is, or a handler of a bound plugin
    does not fit it. -/
def contradiction? (l : Ledger) (spec : HookSpec) : Option PluginError :=
  match l.specs.check spec with
  | .error e => some e
  | .ok _ => l.entries.findSome? fun entry =>
      (entry.plugin.impls.filter (·.hook = spec.name)).findSome? (mismatch? spec entry.name)

/-- Adds the specifications of a container that carry the project's tag, if none is refused. -/
def addSpecs (l : Ledger) (container : SpecContainer) : Except PluginError Unit × Ledger :=
  let own := container.specs.filter (·.project = l.project)
  if own = [] then (.error (.noHookSpecs l.project container.description), l)
  else match own.findSome? l.contradiction? with
    | some e => (.error e, l)
    | none => ((l.specs.addAll own).result, { l with specs := (l.specs.addAll own).state })

/-- Makes a call. -/
def call (l : Ledger) : Call → Answer × Ledger
  | .register p asked => ((l.register p asked false).map .registered id)
  | .registerWith p asked internal => ((l.register p asked internal).map .registered id)
  | .registerInternal p asked => ((l.register p asked true).map .registered id)
  | .unregister s => ((l.unregister s).map .unregistered id)
  | .setBlocked name => (.blocked, l.setBlocked name)
  | .addSpecs container => ((l.addSpecs container).map .specified id)

/-- Makes calls one after another, and collects the answers. -/
def calls (l : Ledger) : List Call → List Answer × Ledger
  | [] => ([], l)
  | c :: rest =>
    let (answer, next) := l.call c
    let (answers, last) := next.calls rest
    (answer :: answers, last)

/-- Every look-up and every listing of a manager can be read off a ledger. -/
structure Describes (l : Ledger) (m : Manager) : Prop where
  plugin?_eq : ∀ name, m.plugin? name = (l.entries.find? (·.name = name)).map (·.plugin)
  nameOf?_eq : ∀ key, m.nameOf? key = (l.entries.find? (·.plugin.key = key)).map (·.name)
  hasPlugin_eq : ∀ name, m.hasPlugin name = l.entries.any (·.name = name)
  isRegistered_eq : ∀ key, m.isRegistered key = l.entries.any (·.plugin.key = key)
  isBlocked_eq : ∀ name, m.isBlocked name = decide (name ∈ l.blocked)
  isInternal_eq : ∀ key,
    m.isInternal key = l.entries.any fun entry => entry.internal && entry.plugin.key = key
  names_eq : m.names = (l.entries.filter (!·.internal)).map (·.name)
  internalNames_eq : m.internalNames = (l.entries.filter (·.internal)).map (·.name)
  externalBindings_eq : m.externalBindings = (l.entries.filter (!·.internal)).map (·.toBinding)
  internalBindings_eq : m.internalBindings = (l.entries.filter (·.internal)).map (·.toBinding)
  plugins_eq : m.plugins = l.entries.map (·.plugin)
  internalPlugins_perm :
    m.internalPlugins.Perm ((l.entries.filter (·.internal)).map (·.plugin))
  externalPlugins_eq : m.externalPlugins = (l.entries.filter (!·.internal)).map (·.plugin)
  bindings_eq : m.registry.bindings = l.entries.map (·.toBinding)
  specs_eq : m.registry.specs = l.specs

end Ledger

/-- To search through many lists is to search each of them in turn. -/
theorem findSome?_flatMap {α β γ : Type} (xs : List α) (f : α → List β) (g : β → Option γ) :
    (xs.flatMap f).findSome? g = xs.findSome? fun x => (f x).findSome? g := by
  induction xs with
  | nil => rfl
  | cons x rest ih =>
    rw [List.flatMap_cons, List.findSome?_append, List.findSome?_cons, ih]
    cases (f x).findSome? g <;> rfl

/-- To leave out what has one of many names is to leave out one name after another. -/
theorem filter_not_mem_cons {α : Type} (label : α → String) (name : String) (rest : List String)
    (xs : List α) : (xs.filter (label · ≠ name)).filter (label · ∉ rest) =
      xs.filter (label · ∉ name :: rest) := by
  rw [List.filter_filter]
  refine List.filter_congr fun x _ => ?_
  simp [Bool.and_comm]

/-- The name asked for counts unless it is empty, and else the plugin's own. -/
theorem registeredName_eq (p : Plugin) (asked : Option String) :
    (asked.filter (· ≠ "")).getD p.derivedName = p.registeredName asked := by
  cases asked with
  | none => rfl
  | some name => by_cases hname : name = "" <;> simp [Option.filter, Plugin.registeredName, hname]

/-- A registration on a ledger either changes nothing and answers with no name, or adds an entry. -/
theorem Ledger.register_cases (l : Ledger) (p : Plugin) (asked : Option String)
    (internal : Bool) :
    ((l.register p asked internal).2 = l ∧
        ∀ name, (l.register p asked internal).1 ≠ .ok (some name)) ∨
      ((l.register p asked internal).1 = .ok (some (p.registeredName asked)) ∧
        (l.register p asked internal).2 =
          { l with entries := l.entries ++ [⟨⟨p.registeredName asked, p⟩, internal⟩] }) := by
  simp only [Ledger.register, registeredName_eq]
  -- four things can refuse it, and each leaves the ledger alone
  split
  · exact .inl ⟨rfl, nofun⟩
  · split
    · exact .inl ⟨rfl, nofun⟩
    · split
      · exact .inl ⟨rfl, nofun⟩
      · split
        · exact .inl ⟨rfl, nofun⟩
        · exact .inr ⟨rfl, rfl⟩

namespace Manager

/-- The ledger of a manager. -/
def ledger (m : Manager) : Ledger where
  project := m.registry.project
  entries := m.registry.bindings.map fun b => ⟨b, m.isInternal b.plugin.key⟩
  blocked := m.registry.blocked.toFinset
  specs := m.registry.specs

/-- Without the marks the ledger lists the bindings. -/
theorem map_toBinding_ledger (m : Manager) :
    m.ledger.entries.map (·.toBinding) = m.registry.bindings := by
  simp [ledger, Function.comp_def]

/-- A specification is checked against the handlers in the table as it is against the entries. -/
theorem checkSpec_eq {m : Manager} (h : m.Coherent) (spec : HookSpec) :
    m.registry.checkSpec spec = outcome (m.ledger.contradiction? spec) := by
  have hverify : (fun entry : HookEntry => Registry.verify spec entry.plugin entry.impl) =
      fun entry => outcome (mismatch? spec entry.plugin entry.impl) := by
    funext entry
    exact verify_eq spec entry.plugin entry.impl
  -- the table has the handlers in the order of the entries, so both searches find the same
  have hentries : m.ledger.entries.findSome? (fun entry =>
      (entry.plugin.impls.filter (·.hook = spec.name)).findSome? (mismatch? spec entry.name)) =
        (m.registry.hooks.impls spec.name).findSome?
          fun entry => mismatch? spec entry.plugin entry.impl := by
    rw [h.registry.impls_eq, Registry.offered, findSome?_flatMap, ledger, List.findSome?_map]
    refine congrArg (m.registry.bindings.findSome? ·) (funext fun b => ?_)
    rw [Binding.offers, List.findSome?_map]
    rfl
  have hspecs : m.ledger.specs = m.registry.specs := rfl
  rw [Registry.checkSpec, Ledger.contradiction?, hverify, forM_outcome, hentries, hspecs]
  cases m.registry.specs.check spec <;> rfl

/-! ## Searches among the entries -/

/-- To search the ledger is to search the bindings. -/
theorem find?_ledger (m : Manager) (q : Binding → Bool) :
    (m.ledger.entries.find? fun entry => q entry.toBinding).map (·.toBinding) =
      m.registry.bindings.find? q := by
  simp [ledger, List.find?_map, Function.comp_def]

/-- So is to ask whether it has an entry of some kind. -/
theorem any_ledger (m : Manager) (q : Binding → Bool) :
    (m.ledger.entries.any fun entry => q entry.toBinding) = m.registry.bindings.any q := by
  simp [ledger, Function.comp_def]

/-- The entries that stay are the entries of the bindings that stay, if no mark changes. -/
theorem filter_ledger {m : Manager} {q : Binding → Bool} {isInternal : PluginKey → Bool}
    (hmarks : ∀ b ∈ m.registry.bindings, q b →
      isInternal b.plugin.key = m.isInternal b.plugin.key) :
    m.ledger.entries.filter (fun entry => q entry.toBinding) =
      (m.registry.bindings.filter q).map fun b => ⟨b, isInternal b.plugin.key⟩ := by
  rw [ledger, List.filter_map]
  refine List.map_congr_left fun b hb => ?_
  obtain ⟨hmem, hq⟩ := List.mem_filter.1 hb
  rw [hmarks b hmem hq]

/-! ## Look-ups and listings -/

namespace Coherent

variable {m : Manager} (h : m.Coherent)
include h

/-- The internal bindings are those that are marked. -/
theorem internalBindings_eq :
    m.internalBindings = (m.ledger.entries.filter (·.internal)).map (·.toBinding) := by
  rw [internalBindings, ledger, List.filter_map, List.map_map]
  conv_lhs => rw [← List.map_id (m.registry.bindings.filter _)]
  refine congrArg (List.map _) (List.filter_congr fun b hb => ?_)
  exact h.holdsInternal_eq hb

/-- The external bindings are the others. -/
theorem externalBindings_eq :
    m.externalBindings = (m.ledger.entries.filter (!·.internal)).map (·.toBinding) := by
  rw [externalBindings, ledger, List.filter_map, List.map_map]
  conv_lhs => rw [← List.map_id (m.registry.bindings.filter _)]
  refine congrArg (List.map _) (List.filter_congr fun b hb => ?_)
  exact congrArg (!·) (h.holdsInternal_eq hb)

/-- The names listed are those of the external bindings. -/
theorem names_eq : m.names = m.externalBindings.map (·.name) := by
  rw [names, ← h.registry.map_name_bindings, List.filter_map]
  rfl

/-- The table of internal plugins holds the internal bindings, in some order. -/
theorem internalTable_perm :
    m.internalTable.Perm (m.internalBindings.map fun b => (b.name, b.plugin)) := by
  -- both lists are without repetition, so it is enough that they have the same members
  have hnodup : (m.internalBindings.map fun b => (b.name, b.plugin)).Nodup := by
    refine List.Nodup.of_map Prod.fst ?_
    rw [List.map_map]
    exact h.registry.nodup_names.sublist (List.filter_sublist.map _)
  refine (List.perm_ext_iff_of_nodup (List.Nodup.of_map _ h.nodup_internalTable) hnodup).2 ?_
  -- a pair of the table is a binding that is held internally, and the other way round
  rintro ⟨name, p⟩
  rw [← Keyed.get?_eq_some_iff h.nodup_internalTable, List.mem_map]
  constructor
  · intro hp
    refine ⟨⟨name, p⟩, List.mem_filter.2 ⟨?_, ?_⟩, rfl⟩
    · exact h.registry.mem_bindings_iff.2 (h.plugin?_of_internal hp)
    · exact Option.isSome_of_mem hp
  · rintro ⟨b, hb, heq⟩
    obtain ⟨hmem, hheld⟩ := List.mem_filter.1 hb
    obtain ⟨rfl, rfl⟩ := Prod.mk.inj heq
    obtain ⟨q, hq⟩ := Option.isSome_iff_exists.1 hheld
    rw [hq, ← h.registry.mem_bindings_iff.1 hmem, h.plugin?_of_internal hq]

/-- An object is that of an internal plugin exactly if it has a name as one. -/
theorem any_internalPlugins (key : PluginKey) :
    m.internalPlugins.any (·.key = key) = m.isInternal key := by
  rw [Bool.eq_iff_iff, List.any_eq_true, isInternal, Option.isSome_iff_exists]
  simp only [h.internalName_eq_some_iff, Keyed.get?_eq_some_iff h.nodup_internalTable,
    internalPlugins, List.mem_map, decide_eq_true_eq]
  constructor
  · rintro ⟨p, ⟨⟨name, q⟩, hq, rfl⟩, hkey⟩
    exact ⟨name, q, hq, hkey⟩
  · rintro ⟨name, q, hq, hkey⟩
    exact ⟨q, ⟨⟨name, q⟩, hq, rfl⟩, hkey⟩

/-- The external plugins are those of the external bindings. -/
theorem externalPlugins_eq : m.externalPlugins = m.externalBindings.map (·.plugin) := by
  rw [externalPlugins, plugins, ← Registry.map_plugin_bindings, List.filter_map]
  refine congrArg (List.map _) (List.filter_congr fun b hb => ?_)
  simp only [Function.comp_apply, h.any_internalPlugins, h.holdsInternal_eq hb]

end Coherent

/-- What a coherent manager shows is what its ledger says. -/
theorem ledger_describes {m : Manager} (h : m.Coherent) : m.ledger.Describes m where
  plugin?_eq := by
    intro name
    rw [h.plugin?_eq, h.registry.plugin?_eq_find?, ← find?_ledger, Option.map_map]
    rfl
  nameOf?_eq := by
    intro key
    rw [h.nameOf?_eq, h.registry.nameOf?_eq_find?, ← find?_ledger, Option.map_map]
    rfl
  hasPlugin_eq := by
    intro name
    rw [h.hasPlugin_eq, Registry.hasPlugin, h.registry.plugin?_eq_find?, Option.isSome_map,
      List.isSome_find?, ← any_ledger]
  isRegistered_eq := by
    intro key
    rw [h.isRegistered_eq, Registry.isRegistered, h.registry.nameOf?_eq_find?, Option.isSome_map,
      List.isSome_find?, ← any_ledger]
  isBlocked_eq := by
    intro name
    rw [h.isBlocked_eq, Registry.isBlocked, Bool.eq_iff_iff]
    simp [ledger]
  isInternal_eq := by
    intro key
    rw [Bool.eq_iff_iff, List.any_eq_true]
    constructor
    · -- an internal object is bound, and its binding has an entry
      intro hkey
      obtain ⟨name, hname⟩ := Option.isSome_iff_exists.1 hkey
      obtain ⟨p, hp, rfl⟩ :=
        (h.registry.nameOf?_eq_some_iff key name).1 (h.nameOf?_of_internal hname)
      have hmem : ⟨name, p⟩ ∈ m.registry.bindings := h.registry.mem_bindings_iff.2 hp
      exact ⟨_, List.mem_map_of_mem hmem, by simp [hkey]⟩
    · rintro ⟨entry, hentry, hboth⟩
      obtain ⟨b, -, rfl⟩ := List.mem_map.1 hentry
      simp only [Bool.and_eq_true, decide_eq_true_eq] at hboth
      exact hboth.2 ▸ hboth.1
  names_eq := by
    rw [h.names_eq, h.externalBindings_eq, List.map_map]
    rfl
  internalNames_eq := by
    rw [internalNames, h.internalBindings_eq, List.map_map]
    rfl
  externalBindings_eq := h.externalBindings_eq
  internalBindings_eq := h.internalBindings_eq
  plugins_eq := by
    rw [plugins, ← Registry.map_plugin_bindings, ← map_toBinding_ledger, List.map_map]
    rfl
  internalPlugins_perm := by
    -- the table was not built in the order of binding, so the order may differ here
    have hperm := h.internalTable_perm.map Prod.snd
    rw [h.internalBindings_eq, List.map_map, List.map_map] at hperm
    exact hperm
  externalPlugins_eq := by
    rw [h.externalPlugins_eq, h.externalBindings_eq, List.map_map]
    rfl
  bindings_eq := (map_toBinding_ledger m).symm
  specs_eq := rfl

end Manager

end Plugboard
