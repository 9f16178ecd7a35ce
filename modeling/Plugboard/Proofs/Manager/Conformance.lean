import Plugboard.Proofs.Manager.Dispatch
import Plugboard.Proofs.Manager.Lockstep
import Plugboard.Proofs.Registry.Conformance

/-!
# Specified hooks are called without surprises

A host that passes all parameters of a specification need not know which handlers there are: none
of them asks for more. After every run the stored handlers conform to the stored specifications
(`conforms_run`), so a call that passes the parameters of the specification gives results or the
error of a handler (`Conforms.invoke_of_specified`).
-/

namespace Plugboard

namespace Registry

/-- A handler that a bound plugin declares is among the stored ones of its hook. -/
theorem Coherent.mem_impls {r : Registry} (h : r.Coherent) {plugin hook : String} {impl : HookImpl}
    (hmem : (plugin, impl) ∈ r.bindings.flatMap (·.handlers)) (hhook : impl.hook = hook) :
    ∃ entry ∈ r.hooks.impls hook, entry.impl = impl := by
  obtain ⟨b, hb, hhandler⟩ := List.mem_flatMap.1 hmem
  obtain ⟨declared, himpl, heq⟩ := List.mem_map.1 hhandler
  obtain ⟨-, rfl⟩ := Prod.mk.inj heq
  have hoffers : ⟨declared, b.name, b.plugin.key⟩ ∈ b.offers hook :=
    List.mem_map_of_mem (List.mem_filter.2 ⟨himpl, by simpa using hhook⟩)
  refine ⟨⟨declared, b.name, b.plugin.key⟩, ?_, rfl⟩
  rw [h.impls_eq]
  exact List.mem_flatMap.2 ⟨b, hb, hoffers⟩

/-- Where handlers conform, a call that passes what the specification lists ends early only for a
    handler that fails. -/
theorem Conforms.invoke_of_specified {r : Registry} (h : r.Conforms) (hcoherent : r.Coherent)
    {hook : String} {spec : HookSpec} (hspec : r.specs.get? hook = some spec) {args : Args}
    (hargs : ∀ param ∈ spec.params, args.contains param = true) :
    (∃ values, (r.invoke hook args).result = .ok values) ∨
      ∃ plugin e, (r.invoke hook args).result = .error (.handlerFailed hook plugin e) := by
  have hwalk : (r.invoke hook args).result =
      (walk hook args (r.bindings.flatMap (·.handlers))).result := by
    rw [hcoherent.invoke_result, dispatch]
    simp [SpecTable.contains, hspec]
  rw [hwalk]
  cases hresult : (walk hook args (r.bindings.flatMap (·.handlers))).result with
  | ok values => exact .inl ⟨values, rfl⟩
  | error e =>
    -- a handler can lack only what the specification does not have, and it has none of that
    cases ends_of_walk_eq_error hresult with
    | failed => exact .inr ⟨_, _, rfl⟩
    | missing mem implements declared absent =>
      obtain ⟨entry, hentry, rfl⟩ := hcoherent.mem_impls mem implements
      have hpassed := hargs _ (h hook spec hspec entry hentry _ declared)
      rw [absent] at hpassed
      cases hpassed

/-- Every call keeps the handlers conforming. -/
theorem Conforms.call {r : Registry} (h : r.Conforms) (hcoherent : r.Coherent) (c : Call) :
    (r.call c).2.Conforms := by
  cases c with
  | register p asked => exact h.register p asked
  | registerWith p asked internal => exact h.register p asked
  | registerInternal p asked => exact h.register p asked
  | unregister s => exact h.unregister hcoherent s
  | setBlocked name => exact h.setBlocked hcoherent name
  | addSpecs container => exact h.addSpecs container

end Registry

namespace Manager

/-- After every run the stored handlers fit the stored specifications. -/
theorem conforms_run (project : String) (ops : List Op) :
    ((Manager.new project).run ops).registry.Conforms :=
  registry_run (fun _ c hcoherent h => h.call hcoherent c) (Registry.conforms_new project) ops

/-- After every run, the stored handlers of a specified hook take only parameters of the
    specification, and a call that passes all of these gives results or the error of a handler. -/
theorem conformance_after_run (project : String) (ops : List Op) (hook : String) (spec : HookSpec)
    (hspec : ((Manager.new project).run ops).registry.specs.get? hook = some spec) :
    (∀ entry ∈ ((Manager.new project).run ops).registry.hooks.impls hook,
        ∀ param ∈ entry.impl.params, param ∈ spec.params) ∧
      ∀ args : Args, (∀ param ∈ spec.params, args.contains param = true) →
        (∃ values, (((Manager.new project).run ops).invoke hook args).result = .ok values) ∨
          ∃ plugin e, (((Manager.new project).run ops).invoke hook args).result =
            .error (.handlerFailed hook plugin e) :=
  have hconforms := conforms_run project ops
  have hcoherent := (coherent_run project ops).registry
  ⟨hconforms hook spec hspec, fun _ hargs => hconforms.invoke_of_specified hcoherent hspec hargs⟩

/-- The handler came first, its specification second, and the call passes the one parameter. -/
theorem conformance_late_specification :
    let greeter : PluginDef := { impls := [.constant "greet" ["user"] (.bool true)] }
    let m := (Manager.new "forum").run [
      .call (.register (.make ⟨"greeter", 0⟩ greeter) none),
      .call (.addSpecs ⟨"hooks", [⟨"greet", ["user"], "forum"⟩]⟩)]
    (∀ entry ∈ m.registry.hooks.impls "greet", ∀ param ∈ entry.impl.params, param ∈ ["user"]) ∧
      ((∃ values, (m.invoke "greet" ⟨[("user", .text "x")]⟩).result = .ok values) ∨
        ∃ plugin e, (m.invoke "greet" ⟨[("user", .text "x")]⟩).result =
          .error (.handlerFailed "greet" plugin e)) := by
  intro greeter m
  have hspec : m.registry.specs.get? "greet" = some ⟨"greet", ["user"], "forum"⟩ := by
    decide +kernel
  have hafter := conformance_after_run "forum" _ "greet" _ hspec
  exact ⟨hafter.1, hafter.2 _ (by decide +kernel)⟩

end Manager

end Plugboard
