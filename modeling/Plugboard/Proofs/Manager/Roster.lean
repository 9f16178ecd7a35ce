import Plugboard.Proofs.Manager.Dispatch
import Plugboard.Proofs.Manager.Origin

/-!
# The roster of a manager

From outside it does not show which object stands behind a name. What shows is the name, what the
plugin is, and whether it is internal: a post. The roster lists the posts in the order of binding.
The listings of a coherent manager are those of its roster (`Coherent.names_eq_roster`,
`Coherent.internalBindings_eq_roster`), and to call a specified hook is to walk the roster
(`Coherent.invoke_roster`).

The operations do simple things to it: binding adds a post (`Coherent.roster_bindAs`), blocking
takes one out (`Coherent.roster_setBlocked`), and a load pass adds external posts at the end
(`Grows.roster_eq`).
-/

namespace Plugboard

/-- A bound plugin apart from the identity of its object. -/
structure Post where
  /-- The name that it is bound to. -/
  name : String
  /-- What it is. -/
  plugin : PluginDef
  /-- Whether it is internal. -/
  internal : Bool

/-- The handlers that a post declares, each with its name. -/
def Post.handlers (post : Post) : List (String × HookImpl) := post.plugin.impls.map (post.name, ·)

/-- A line of a ledger without the identity of the object. -/
def Entry.post (entry : Entry) : Post := ⟨entry.name, entry.plugin.toPluginDef, entry.internal⟩

/-! ## Walks over several plugins -/

/-- A handler that answers with a value gives this value if it is one of the hook. -/
theorem walk_singleton {hook : String} {args : Args} (plugin : String) {impl : HookImpl}
    {value : Json} (h : impl.hook = hook → (∀ param ∈ impl.params, args.contains param = true) ∧
      (impl.handler (args.restrict impl.params)).result = .ok (some value)) :
    (walk hook args [(plugin, impl)]).result = .ok (if impl.hook = hook then [value] else []) := by
  by_cases hhook : impl.hook = hook
  · obtain ⟨hpassed, hanswer⟩ := h hhook
    have hnone : impl.params.find? (fun param => !args.contains param) = none := by
      simpa using hpassed
    simp [walk, hhook, hnone, hanswer, Except.map]
  · simp [walk, hhook]

/-- Handlers that give results one after another give all of them together. -/
theorem walk_append {hook : String} {args : Args} {first rest : List (String × HookImpl)}
    {values more : List Json} (hfirst : (walk hook args first).result = .ok values)
    (hrest : (walk hook args rest).result = .ok more) :
    (walk hook args (first ++ rest)).result = .ok (values ++ more) := by
  induction first generalizing values with
  | nil =>
    cases hfirst
    exact hrest
  | cons handler others ih =>
    obtain ⟨plugin, impl⟩ := handler
    rw [List.cons_append]
    rw [walk] at hfirst ⊢
    split at hfirst
    · rename_i hhook
      rw [if_pos hhook]
      exact ih hfirst
    · rename_i hhook
      rw [if_neg hhook]
      -- the handler is called with success, so both walks go on behind it
      cases hmissing : impl.params.find? fun param => !args.contains param with
      | some param =>
        rw [hmissing] at hfirst
        cases hfirst
      | none =>
        rw [hmissing] at hfirst
        simp only at hfirst ⊢
        cases hanswer : (impl.handler (args.restrict impl.params)).result with
        | error e =>
          rw [hanswer] at hfirst
          cases hfirst
        | ok value =>
          rw [hanswer] at hfirst
          simp only at hfirst ⊢
          -- the rest of the first walk gives results, too, and the induction is about these
          cases hothers : (walk hook args others).result with
          | error e =>
            rw [hothers] at hfirst
            cases hfirst
          | ok later =>
            rw [hothers] at hfirst
            cases hfirst
            rw [ih hothers, Except.map, List.append_assoc]

/-- So do the handlers of many plugins. -/
theorem walk_flatMap {α : Type} {hook : String} {args : Args} {xs : List α}
    {handlers : α → List (String × HookImpl)} {values : α → List Json}
    (h : ∀ x ∈ xs, (walk hook args (handlers x)).result = .ok (values x)) :
    (walk hook args (xs.flatMap handlers)).result = .ok (xs.flatMap values) := by
  induction xs with
  | nil => rfl
  | cons x rest ih =>
    obtain ⟨hx, hrest⟩ := List.forall_mem_cons.1 h
    exact walk_append hx (ih hrest)

namespace Manager

/-- The posts of a manager in the order in which their plugins were bound. -/
def roster (m : Manager) : List Post := m.ledger.entries.map Entry.post

/-- The handlers that the posts declare are those that the bindings declare. -/
theorem flatMap_handlers_roster (m : Manager) :
    m.roster.flatMap Post.handlers = m.registry.bindings.flatMap Binding.handlers := by
  rw [← map_toBinding_ledger, roster, List.flatMap_map, List.flatMap_map]
  rfl

namespace Coherent

variable {m : Manager} (h : m.Coherent)
include h

/-- The names listed are those of the external posts. -/
theorem names_eq_roster : m.names = (m.roster.filter (!·.internal)).map (·.name) := by
  rw [(ledger_describes h).names_eq, roster, List.filter_map, List.map_map]
  rfl

/-- The internal plugins, in order, are those of the internal posts. -/
theorem internalBindings_eq_roster :
    (m.internalBindings.map fun b => (b.name, b.plugin.toPluginDef)) =
      (m.roster.filter (·.internal)).map fun post => (post.name, post.plugin) := by
  rw [h.internalBindings_eq, roster, List.filter_map, List.map_map, List.map_map]
  rfl

/-- A name is bound if a post has it. -/
theorem hasPlugin_eq_roster (name : String) :
    m.hasPlugin name = m.roster.any (·.name = name) := by
  rw [(ledger_describes h).hasPlugin_eq, roster, List.any_map]
  rfl

/-- A specified hook is called by walking the roster. -/
theorem invoke_roster {hook : String} (hspec : m.registry.specs.contains hook = true)
    (args : Args) :
    (m.invoke hook args).result = (walk hook args (m.roster.flatMap Post.handlers)).result := by
  have hknown : (m.registry.specs.contains hook || m.registry.implements hook) = true := by
    rw [hspec, Bool.true_or]
  rw [invoke, h.registry.invoke_result, Registry.dispatch, if_pos hknown,
    flatMap_handlers_roster]

/-! ## What the operations do to the roster -/

/-- Binding a plugin adds a post. -/
theorem roster_bindAs {name : String} {p : Plugin} (hadmits : m.registry.Admits p name)
    (internal : Bool) :
    (m.bindAs name p internal).roster = m.roster ++ [⟨name, p.toPluginDef, internal⟩] := by
  rw [roster, h.ledger_bindAs hadmits, List.map_append]
  rfl

/-- Blocking a name takes out its post. -/
theorem roster_setBlocked (name : String) :
    (m.setBlocked name).state.roster = m.roster.filter (·.name ≠ name) := by
  have hentries : (m.setBlocked name).state.ledger.entries =
      m.ledger.entries.filter (·.name ≠ name) := by
    rw [← h.ledger_setBlocked]
    rfl
  rw [roster, hentries, roster, List.filter_map]
  rfl

end Coherent

/-- New bindings add external posts. -/
theorem Grows.roster_eq {m n : Manager} {new : List Binding} (h : m.Grows new n) (hm : m.Coherent)
    (hn : n.Coherent) :
    n.roster = m.roster ++ new.map fun b => ⟨b.name, b.plugin.toPluginDef, false⟩ := by
  rw [roster, h.entries_eq hm hn, List.map_append, List.map_map]
  rfl

end Manager

end Plugboard
