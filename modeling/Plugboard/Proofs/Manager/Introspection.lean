import Plugboard.Proofs.Manager.Dispatch

/-!
# What plugins declare, and what is said about it

A registry answers from its table of handlers which hooks a plugin implements, which hooks are
implemented at all and how often, and whether one of them was never specified. On a coherent
registry these answers are about the bound plugins and what they declare: nothing is left of plugins
that are gone, and each handler stands under the name that its plugin is bound to.

So they are after every run of a manager.
-/

namespace Plugboard

/-- Whether a bound plugin declares a handler for a hook. -/
def Binding.Implements (b : Binding) (hook : String) : Prop :=
  ∃ impl ∈ b.plugin.impls, impl.hook = hook

instance (b : Binding) (hook : String) : Decidable (b.Implements hook) :=
  inferInstanceAs (Decidable (∃ impl ∈ b.plugin.impls, impl.hook = hook))

/-- A bound plugin offers no handlers for a hook that it does not implement. -/
theorem Binding.offers_eq_nil_iff {b : Binding} {hook : String} :
    b.offers hook = [] ↔ ¬b.Implements hook := by
  simp [offers, Implements]

/-- It offers some for every hook that it does. -/
theorem Binding.exists_mem_offers_iff {b : Binding} {hook : String} :
    (∃ entry, entry ∈ b.offers hook) ↔ b.Implements hook := by
  rw [← not_iff_not, ← Binding.offers_eq_nil_iff, List.eq_nil_iff_forall_not_mem, not_exists]

namespace Registry

/-- The handlers offered for a hook, without their plugins, are those of the hook among all that are
    declared. -/
theorem map_impl_offered (r : Registry) (hook : String) :
    (r.offered hook).map (·.impl) =
      (r.bindings.flatMap (·.plugin.impls)).filter (·.hook = hook) := by
  rw [offered, List.map_flatMap, List.filter_flatMap]
  refine List.flatMap_congr fun b _ => ?_
  rw [Binding.offers, List.map_map]
  exact List.map_id _

/-- A hook is offered handlers if some bound plugin implements it. -/
theorem offered_ne_nil_iff (r : Registry) (hook : String) :
    r.offered hook ≠ [] ↔ ∃ b ∈ r.bindings, b.Implements hook := by
  rw [Ne, offered, List.flatMap_eq_nil_iff]
  simp only [Binding.offers_eq_nil_iff, not_forall, Classical.not_not, exists_prop]

/-- The first of the handlers offered for a hook is one of the plugin that was bound first among
    those that implement it. -/
theorem head_offered {r : Registry} {hook : String} {earlier later : List Binding} {b : Binding}
    (hsplit : r.bindings = earlier ++ b :: later) (hb : b.Implements hook)
    (hearlier : ∀ a ∈ earlier, ¬a.Implements hook) :
    ∃ entry rest, r.offered hook = entry :: rest ∧ entry.plugin = b.name := by
  -- the plugins before this one offer nothing
  have hnone : earlier.flatMap (·.offers hook) = [] :=
    List.flatMap_eq_nil_iff.2 fun a ha => Binding.offers_eq_nil_iff.2 (hearlier a ha)
  obtain ⟨entry, rest, hoffers⟩ := List.exists_cons_of_ne_nil
    fun hnil => Binding.offers_eq_nil_iff.1 hnil hb
  refine ⟨entry, rest ++ later.flatMap (·.offers hook), ?_, ?_⟩
  · rw [offered, hsplit, List.flatMap_append, List.flatMap_cons, hnone, hoffers]
    rfl
  · exact Binding.plugin_of_mem_offers (hoffers ▸ List.mem_cons_self)

/-- Among the plugins that implement a hook one was bound first. -/
theorem exists_first {r : Registry} {hook : String} (h : ∃ b ∈ r.bindings, b.Implements hook) :
    ∃ earlier b later, r.bindings = earlier ++ b :: later ∧ b.Implements hook ∧
      ∀ a ∈ earlier, ¬a.Implements hook := by
  obtain ⟨b, hfind⟩ : ∃ b, r.bindings.find? (fun b => b.Implements hook) = some b := by
    rw [← Option.isSome_iff_exists, List.find?_isSome]
    simpa using h
  obtain ⟨hb, earlier, later, hsplit, hearlier⟩ := List.find?_eq_some_iff_append.1 hfind
  exact ⟨earlier, b, later, hsplit, by simpa using hb, by simpa using hearlier⟩

/-- Whether a hook is implemented although it was never specified. -/
def Pending (r : Registry) (hook : String) : Prop :=
  (∃ b ∈ r.bindings, b.Implements hook) ∧ r.specs.get? hook = none

namespace Coherent

variable {r : Registry} (h : r.Coherent)
include h

/-- The hooks listed are those that bound plugins implement. -/
theorem mem_hooks_iff {hook : String} :
    hook ∈ r.hooks.hooks ↔ ∃ b ∈ r.bindings, b.Implements hook := by
  rw [h.wellFormed.mem_hooks_iff, h.impls_eq, r.offered_ne_nil_iff]

/-- The hooks listed for a bound plugin are those that it implements. -/
theorem mem_hooksOf_iff {b : Binding} (hb : b ∈ r.bindings) {hook : String} :
    hook ∈ r.hooks.hooksOf b.plugin.key ↔ b.Implements hook := by
  rw [h.wellFormed.mem_hooksOf_iff, h.impls_eq, offered, ← Binding.exists_mem_offers_iff]
  constructor
  · rintro ⟨entry, hentry, hkey⟩
    obtain ⟨a, ha, hoffers⟩ := List.mem_flatMap.1 hentry
    -- a handler with the key of the plugin is one of its own, as no other binding has the key
    have hab : a = b :=
      List.inj_on_of_nodup_map h.nodup_keys ha hb (Binding.key_of_mem_offers hoffers ▸ hkey)
    exact ⟨entry, hab ▸ hoffers⟩
  · rintro ⟨entry, hoffers⟩
    exact ⟨entry, List.mem_flatMap.2 ⟨b, hb, hoffers⟩, Binding.key_of_mem_offers hoffers⟩

/-- An object is registered if it is bound to some name. -/
theorem isRegistered_iff {key : PluginKey} :
    r.isRegistered key = true ↔ ∃ b ∈ r.bindings, b.plugin.key = key := by
  rw [isRegistered, h.nameOf?_eq_find?, Option.isSome_map, List.find?_isSome]
  simp

/-- An object that is not bound implements nothing that the registry knows of. -/
theorem hookNames?_eq_none_iff {key : PluginKey} :
    r.hookNames? key = none ↔ ∀ b ∈ r.bindings, b.plugin.key ≠ key := by
  rw [hookNames?, ite_eq_right_iff, h.isRegistered_iff]
  simp

/-- Of a bound plugin the hooks are known. -/
theorem hookNames?_of_mem {b : Binding} (hb : b ∈ r.bindings) :
    r.hookNames? b.plugin.key = some (r.hooks.hooksOf b.plugin.key) := by
  rw [hookNames?, if_pos (h.isRegistered_iff.2 ⟨b, hb, rfl⟩)]

/-- A hook is counted as often as bound plugins declare handlers for it. -/
theorem implCount_eq (hook : String) :
    r.hooks.implCount hook =
      ((r.bindings.flatMap (·.plugin.impls)).filter (·.hook = hook)).length := by
  rw [HookTable.implCount, h.impls_eq, ← r.map_impl_offered, List.length_map]

/-- The search of a check finds the first, bytewise, of the pending hooks. -/
theorem find?_unspecified_iff {hook : String} :
    r.hooks.hooks.find? (fun hook => !r.specs.contains hook) = some hook ↔
      r.Pending hook ∧ ∀ other, r.Pending other → other ≠ hook → Text.Precedes hook other := by
  have hunspecified : ∀ other, (!r.specs.contains other) = true ↔ r.specs.get? other = none := by
    simp [SpecTable.contains]
  rw [Text.find?_eq_some_iff_of_ascending h.wellFormed.ascending_hooks]
  simp only [h.mem_hooks_iff, hunspecified, Pending, and_imp, and_assoc]

/-- A search without success means that no hook is pending. -/
theorem find?_unspecified_eq_none_iff :
    r.hooks.hooks.find? (fun hook => !r.specs.contains hook) = none ↔
      ∀ hook, ¬r.Pending hook := by
  simp only [List.find?_eq_none, h.mem_hooks_iff, Pending, not_and, SpecTable.contains]
  refine forall_congr' fun hook => imp_congr_right fun _ => ?_
  cases r.specs.get? hook <;> simp

/-- A check names the first, bytewise, of the pending hooks and the plugin that was bound first
    among those that implement it. -/
theorem checkPending_eq_error_iff {e : PluginError} :
    r.checkPending = .error e ↔ ∃ hook earlier b later, r.Pending hook ∧
      (∀ other, r.Pending other → other ≠ hook → Text.Precedes hook other) ∧
      r.bindings = earlier ++ b :: later ∧ b.Implements hook ∧
      (∀ a ∈ earlier, ¬a.Implements hook) ∧ e = .pendingImpl b.name hook := by
  unfold checkPending
  constructor
  · intro herror
    split at herror
    · cases herror
    · -- the hook that is found has a handler, and the first of these names the plugin
      rename_i hook hfind
      obtain ⟨hpending, hleast⟩ := h.find?_unspecified_iff.1 hfind
      obtain ⟨earlier, b, later, hsplit, hb, hearlier⟩ := exists_first hpending.1
      obtain ⟨entry, rest, hoffered, hname⟩ := head_offered hsplit hb hearlier
      simp only [h.impls_eq, hoffered] at herror
      cases herror
      exact ⟨hook, earlier, b, later, hpending, hleast, hsplit, hb, hearlier, by rw [hname]⟩
  · rintro ⟨hook, earlier, b, later, hpending, hleast, hsplit, hb, hearlier, rfl⟩
    obtain ⟨entry, rest, hoffered, hname⟩ := head_offered hsplit hb hearlier
    simp only [h.find?_unspecified_iff.2 ⟨hpending, hleast⟩, h.impls_eq, hoffered, hname]

/-- The check passes if no hook is pending. -/
theorem checkPending_eq_ok_iff : r.checkPending = .ok () ↔ ∀ hook, ¬r.Pending hook := by
  rw [← h.find?_unspecified_eq_none_iff]
  cases hfind : r.hooks.hooks.find? (fun hook => !r.specs.contains hook) with
  | none => simp [checkPending, hfind]
  | some hook =>
    -- a hook that is found has a plugin to name, so that the check cannot pass
    obtain ⟨hpending, hleast⟩ := h.find?_unspecified_iff.1 hfind
    obtain ⟨earlier, b, later, hsplit, hb, hearlier⟩ := exists_first hpending.1
    have herror : r.checkPending = .error (.pendingImpl b.name hook) :=
      h.checkPending_eq_error_iff.2
        ⟨hook, earlier, b, later, hpending, hleast, hsplit, hb, hearlier, rfl⟩
    simp [herror]

end Coherent

end Registry

/-- After every run, what a manager says about hooks is what the bound plugins declare. The hooks of
    an object are known if and only if it is bound; they are those that it declares handlers for,
    each once and in order, and so are the hooks of all bound plugins. The handlers counted for a
    hook are all that are declared. A check passes if and only if every hook that is implemented is
    specified; otherwise it names the first hook that is not, and the first plugin that implements
    it. -/
theorem Manager.introspection_after_run (project : String) (ops : List Op) :
    let m := (Manager.new project).run ops
    (∀ key, m.hookNames? key = none ↔ ∀ b ∈ m.registry.bindings, b.plugin.key ≠ key) ∧
      (∀ b ∈ m.registry.bindings, ∃ hooks, m.hookNames? b.plugin.key = some hooks ∧
        Text.Ascending hooks ∧ ∀ hook, hook ∈ hooks ↔ b.Implements hook) ∧
      Text.Ascending m.registry.hooks.hooks ∧
      (∀ hook, hook ∈ m.registry.hooks.hooks ↔ ∃ b ∈ m.registry.bindings, b.Implements hook) ∧
      (∀ hook, m.registry.hooks.implCount hook =
        ((m.registry.bindings.flatMap (·.plugin.impls)).filter (·.hook = hook)).length) ∧
      (m.checkPending = .ok () ↔
        ∀ b ∈ m.registry.bindings, ∀ hook, b.Implements hook →
          m.registry.specs.contains hook = true) ∧
      ∀ e, m.checkPending = .error e ↔ ∃ hook earlier b later, m.registry.Pending hook ∧
        (∀ other, m.registry.Pending other → other ≠ hook → Text.Precedes hook other) ∧
        m.registry.bindings = earlier ++ b :: later ∧ b.Implements hook ∧
        (∀ a ∈ earlier, ¬a.Implements hook) ∧ e = .pendingImpl b.name hook := by
  intro m
  have h : m.registry.Coherent := (coherent_run project ops).registry
  refine ⟨fun _ => h.hookNames?_eq_none_iff, fun b hb => ?_, h.wellFormed.ascending_hooks,
    fun _ => h.mem_hooks_iff, h.implCount_eq, ?_, fun _ => h.checkPending_eq_error_iff⟩
  · exact ⟨_, h.hookNames?_of_mem hb, h.wellFormed.ascending_hooksOf _,
      fun _ => h.mem_hooksOf_iff hb⟩
  · refine h.checkPending_eq_ok_iff.trans ⟨fun hnone b hb hook himpl => ?_, ?_⟩
    · -- a hook without a specification would be pending
      by_contra hspec
      exact hnone hook ⟨⟨b, hb, himpl⟩, by simpa [SpecTable.contains] using hspec⟩
    · rintro hall hook ⟨⟨b, hb, himpl⟩, hspec⟩
      have hcontains := hall b hb hook himpl
      simp [SpecTable.contains, hspec] at hcontains

end Plugboard
