import Plugboard.Proofs.Manager.Run

/-!
# Registering and unregistering

Unregistering takes back all that registering did. A plugin that was bound is found by its name and
by its object, and when it is unbound the two layers are again what they were, field by field: the
bindings in their order, the names of the objects, the tables of internal plugins, and the handlers
of every hook, of which the hooks that were new are gone (`unregister_registerWith`).
-/

namespace Plugboard.Manager

namespace Coherent

variable {m : Manager} (h : m.Coherent)
include h

/-- A plugin that a selector means is handed back, and unbound. -/
theorem unregister_of_selected {s : Selector} {name : String} {p : Plugin}
    (hs : m.registry.selected? s = some name) (hp : m.registry.plugin? name = some p) :
    (m.unregister s).result = some p ∧ (m.unregister s).state = m.unbind name p := by
  rcases h.unregister_cases s with ⟨-, -, hresult⟩ | ⟨found, q, hfound, hq, hresult, -, hstate⟩
  · -- the registry finds the plugin, and the manager answers as the registry does
    rw [h.unregister_result] at hresult
    simp [Registry.unregister, hs, hp] at hresult
  · obtain rfl : name = found := Option.some.inj (hs.symm.trans hfound)
    obtain rfl : p = q := Option.some.inj (hp.symm.trans hq)
    exact ⟨hresult, hstate⟩

/-- To bind a plugin that is admitted and to unbind it again changes nothing, on either layer. -/
theorem unbind_bindAs {name : String} {p : Plugin} (hadmits : m.registry.Admits p name)
    (internal : Bool) : (m.bindAs name p internal).unbind name p = m := by
  have hregistry : (m.registry.bind name p).unbind name p = m.registry :=
    h.registry.unbind_bind hadmits.unregistered hadmits.free
  have hnoName := h.get?_internalTable_eq_none hadmits.free
  have hnoKey := h.get?_internalIdentities_eq_none hadmits.unregistered
  cases internal with
  | false =>
    -- an external plugin is in none of the upper tables
    simp [Manager.unbind, Manager.bindAs, dropInternal, hregistry, hnoKey]
  | true =>
    have htable : Keyed.erase name (Keyed.put name p m.internalTable) = m.internalTable :=
      Keyed.erase_put_of_get?_eq_none hnoName p
    have hidentities : Keyed.erase p.key (Keyed.put p.key name m.internalIdentities) =
        m.internalIdentities := Keyed.erase_put_of_get?_eq_none hnoKey name
    simp [Manager.unbind, Manager.bindAs, dropInternal, hregistry, Keyed.get?_put_self, htable,
      hidentities]

end Coherent

/-- After any run a plugin that is registered can be unregistered, by the name that the registration
    answers with and by the object. Either way the plugin is handed back and the manager is the one
    before the registration. -/
theorem unregister_registerWith (project : String) (ops : List Op) (p : Plugin)
    (asked : Option String) (internal : Bool) {name : String}
    (hname : (((Manager.new project).run ops).registerWith p asked internal).result =
      .ok (some name)) :
    let m := (Manager.new project).run ops
    let bound := (m.registerWith p asked internal).state
    ((bound.unregister (.name name)).result = some p ∧
      (bound.unregister (.name name)).state = m) ∧
      (bound.unregister (.object p.key)).result = some p ∧
      (bound.unregister (.object p.key)).state = m := by
  intro m bound
  have hm : m.Coherent := coherent_run project ops
  rcases hm.registerWith_cases p asked internal with ⟨-, -, hno⟩ | ⟨hadmits, hyes, -, hstate⟩
  · exact absurd hname (hno name)
  · -- the name that is answered is the one that the plugin is bound to
    rw [hyes] at hname
    obtain rfl : p.registeredName asked = name := Option.some.inj (Except.ok.inj hname)
    have hbound : bound = m.bindAs (p.registeredName asked) p internal := hstate
    have hcoherent : bound.Coherent := hm.registerWith p asked internal
    have hregistry : bound.registry = m.registry.bind (p.registeredName asked) p := by
      rw [hbound]
      rfl
    have hplugin : bound.registry.plugin? (p.registeredName asked) = some p := by
      rw [hregistry, Registry.plugin?_bind, if_pos rfl]
    have hnameOf : bound.registry.nameOf? p.key = some (p.registeredName asked) := by
      rw [hregistry, Registry.nameOf?_bind, if_pos rfl]
    have hback : bound.unbind (p.registeredName asked) p = m := by
      rw [hbound]
      exact hm.unbind_bindAs hadmits internal
    -- by name or by object, it is this binding that is selected
    have hselected : ∀ s, bound.registry.selected? s = some (p.registeredName asked) →
        (bound.unregister s).result = some p ∧ (bound.unregister s).state = m := by
      intro s hs
      obtain ⟨hresult, hunbound⟩ := hcoherent.unregister_of_selected hs hplugin
      exact ⟨hresult, hunbound.trans hback⟩
    exact ⟨hselected (.name (p.registeredName asked)) rfl, hselected (.object p.key) hnameOf⟩

/-- An internal plugin with two handlers, one for a hook that another plugin implements, too, and
    one for a hook that is new. -/
theorem unregister_registerWith_host :
    let guest : Plugin := .make ⟨"a", 0⟩ { impls := [.constant "greet" [] (.str "hello")] }
    let host : Plugin := .make ⟨"b", 0⟩
      { name? := some "host"
        impls := [.constant "greet" [] (.str "welcome"), .constant "part" [] (.str "farewell")] }
    let m := (Manager.new "forum").run [.call (.register guest (some "guest"))]
    let bound := (m.registerWith host none true).state
    (m.registerWith host none true).result = .ok (some "host") ∧
      bound.registry.hooks.implCount "greet" = 2 ∧ bound.registry.hooks.implCount "part" = 1 ∧
      ((bound.unregister (.name "host")).result = some host ∧
        (bound.unregister (.name "host")).state = m) ∧
      (bound.unregister (.object host.key)).result = some host ∧
      (bound.unregister (.object host.key)).state = m := by
  intro guest host m bound
  have hname : (m.registerWith host none true).result = .ok (some "host") := rfl
  exact ⟨hname, rfl, rfl, unregister_registerWith "forum" _ host none true hname⟩

end Plugboard.Manager
