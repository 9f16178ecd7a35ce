import Plugboard.Proofs.Manager.Lockstep
import Plugboard.Proofs.Manager.Repetition

/-!
# The empty name

A name that is asked for counts only if it is not empty, and a token is never empty. The name that a
plugin states is taken as it is, though, so a plugin that states the empty name is bound to it when
nothing else is asked for (`registeredName_eq_empty_iff`).

There is no other way to the empty name. Every call keeps this true of a registry
(`EmptyStated.call`), and load passes bind plugins by such calls, so it holds of a manager after
every run.
-/

namespace Plugboard

/-! ## How a plugin comes by its name -/

/-- A token is never empty. -/
theorem PluginKey.token_ne_empty (key : PluginKey) : key.token ≠ "" := by
  intro h
  have hlist := congrArg String.toList h
  rw [token, String.toList_append] at hlist
  exact List.cons_ne_nil _ _ hlist

namespace Plugin

/-- The name that a plugin goes by is empty only if it states the empty name. -/
theorem derivedName_eq_empty_iff (p : Plugin) : p.derivedName = "" ↔ p.name? = some "" := by
  cases hname : p.name? with
  | none => simp [derivedName, hname, p.key.token_ne_empty]
  | some name => simp [derivedName, hname]

/-- A plugin is registered under the empty name if it states that name and none is asked for, or
    the empty one. -/
theorem registeredName_eq_empty_iff (p : Plugin) (asked : Option String) :
    p.registeredName asked = "" ↔ p.name? = some "" ∧ (asked = none ∨ asked = some "") := by
  cases asked with
  | none => simp [registeredName, derivedName_eq_empty_iff]
  | some name =>
    by_cases hname : name = ""
    · simp [registeredName, hname, derivedName_eq_empty_iff]
    · simp [registeredName, hname]

end Plugin

namespace Registry

/-- A registration answers with the name that the plugin is registered under, if that is free for
    it. -/
theorem register_result_eq_iff (r : Registry) (p : Plugin) (asked : Option String)
    (name : String) : (r.register p asked).result = .ok (some name) ↔
      r.Admits p name ∧ p.registeredName asked = name := by
  constructor
  · intro h
    rcases r.register_cases p asked with ⟨-, hno⟩ | ⟨hadmits, hresult, -⟩
    · exact absurd h (hno name)
    · rw [hresult] at h
      obtain rfl : p.registeredName asked = name := by simpa using h
      exact ⟨hadmits, rfl⟩
  · rintro ⟨hadmits, rfl⟩
    exact hadmits.register_result

/-- A plugin is bound to the empty name only if it states it and no other is asked for. -/
theorem register_result_empty_iff (r : Registry) (p : Plugin) (asked : Option String) :
    (r.register p asked).result = .ok (some "") ↔
      r.Admits p "" ∧ p.name? = some "" ∧ (asked = none ∨ asked = some "") := by
  rw [register_result_eq_iff, p.registeredName_eq_empty_iff]

/-! ## What every call keeps -/

/-- A plugin that is bound to the empty name states it. -/
def EmptyStated (r : Registry) : Prop := ∀ p, r.plugin? "" = some p → p.name? = some ""

/-- In a new registry nothing has the empty name. -/
theorem emptyStated_new (project : String) : (Registry.new project).EmptyStated := nofun

namespace EmptyStated

variable {r : Registry} (h : r.EmptyStated)
include h

/-- Registering keeps it so that only a plugin that states the empty name has it. -/
theorem register (p : Plugin) (asked : Option String) :
    (r.register p asked).state.EmptyStated := by
  rcases r.register_cases p asked with ⟨hstate, -⟩ | ⟨-, -, hstate⟩
  · rw [hstate]
    exact h
  · intro q hq
    rw [hstate, plugin?_bind] at hq
    by_cases hname : "" = p.registeredName asked
    · -- it is the new binding that has the empty name
      obtain rfl : p = q := by simpa [hname] using hq
      exact ((p.registeredName_eq_empty_iff asked).1 hname.symm).1
    · exact h q (by simpa [hname] using hq)

/-- So does taking a binding back. -/
theorem unregister (s : Selector) : (r.unregister s).state.EmptyStated := by
  rcases r.unregister_cases s with ⟨hstate, -⟩ | ⟨name, p, -, -, -, hstate⟩
  · rw [hstate]
    exact h
  · intro q hq
    rw [hstate, plugin?_unbind] at hq
    by_cases hname : "" = name
    · -- the plugin of the empty name is gone
      simp [hname] at hq
    · exact h q (by simpa [hname] using hq)

/-- So does blocking a name. -/
theorem setBlocked (name : String) : (r.setBlocked name).state.EmptyStated := by
  rw [setBlocked_state, EmptyStated, plugin?_block]
  exact h.unregister (.name name)

/-- So does adding specifications. -/
theorem addSpecs (container : SpecContainer) : (r.addSpecs container).state.EmptyStated := by
  rw [addSpecs_state]
  exact h

/-- So does every call. -/
theorem call (c : Call) : (r.call c).2.EmptyStated := by
  cases c with
  | register p asked => exact h.register p asked
  | registerWith p asked internal => exact h.register p asked
  | registerInternal p asked => exact h.register p asked
  | unregister s => exact h.unregister s
  | setBlocked name => exact h.setBlocked name
  | addSpecs container => exact h.addSpecs container

/-- So do calls that follow one another. -/
theorem calls (cs : List Call) : (r.calls cs).2.EmptyStated := by
  induction cs generalizing r with
  | nil => exact h
  | cons c rest ih => exact ih (h.call c)

end EmptyStated

end Registry

namespace Manager

/-- After every run, whoever is bound to the empty name states it. -/
theorem emptyStated_run (project : String) (ops : List Op) :
    ((Manager.new project).run ops).registry.EmptyStated :=
  registry_run (fun _ c _ h => h.call c) (Registry.emptyStated_new project) ops

/-- A plugin is bound to the empty name only if it states that name, after any calls on a registry
    and after any run of a manager. A registration answers with the empty name exactly if the plugin
    states it, no other name is asked for, and neither the name nor the plugin is refused. -/
theorem empty_name_only_stated (project : String) :
    (∀ cs p, ((Registry.new project).calls cs).2.plugin? "" = some p → p.name? = some "") ∧
      (∀ (r : Registry) p asked, (r.register p asked).result = .ok (some "") ↔
        r.Admits p "" ∧ p.name? = some "" ∧ (asked = none ∨ asked = some "")) ∧
      ∀ ops, let m := (Manager.new project).run ops
        (∀ p, m.plugin? "" = some p → p.name? = some "") ∧
          ∀ p asked internal, (m.registerWith p asked internal).result = .ok (some "") ↔
            m.registry.Admits p "" ∧ p.name? = some "" ∧ (asked = none ∨ asked = some "") := by
  refine ⟨fun cs => (Registry.emptyStated_new project).calls cs,
    Registry.register_result_empty_iff, fun ops => ?_⟩
  have hcoherent := coherent_run project ops
  refine ⟨fun p hp => emptyStated_run project ops p (hcoherent.plugin?_eq "" ▸ hp),
    fun p asked internal => ?_⟩
  -- the manager answers what the registry below it answers
  rw [hcoherent.registerWith_result]
  exact Registry.register_result_empty_iff _ p asked

/-- An internal plugin that states the empty name, with the empty name asked for. -/
theorem empty_name_only_stated_internal :
    let p : Plugin := .make ⟨"a", 0⟩ { name? := some "" }
    let m := (Manager.new "forum").run [.call (.registerInternal p (some ""))]
    ((Manager.new "forum").registerWith p (some "") true).result = .ok (some "") ∧
      m.plugin? "" = some p ∧ p.name? = some "" := by
  intro p m
  have hbound : m.plugin? "" = some p := rfl
  have hadmits : (Manager.new "forum").registry.Admits p "" := ⟨rfl, rfl, rfl, rfl⟩
  have hresult := (((empty_name_only_stated "forum").2.2 []).2 p (some "") true).2
    ⟨hadmits, rfl, .inr rfl⟩
  exact ⟨hresult, hbound, ((empty_name_only_stated "forum").2.2 _).1 p hbound⟩

/-- A plugin that states the empty name is bound to it, by a registry and by a manager. -/
theorem empty_name_bound :
    let p : Plugin := .make ⟨"a", 0⟩ { name? := some "" }
    let base := (Registry.new "forum").register p none
    let s := (Manager.new "forum").registerInternal p (some "")
    base.result = .ok (some "") ∧ base.state.names = [""] ∧ s.result = .ok (some "") ∧
      s.state.internalNames = [""] :=
  ⟨rfl, by decide +kernel, rfl, by decide +kernel⟩

end Manager

end Plugboard
