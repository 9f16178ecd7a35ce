import Plugboard.Registry

/-!
# What is checked

A handler fits a specification if it takes no parameter that the specification lacks. Handlers are
checked when their plugin is registered and again when their hook is specified, each time one after
another up to the first fault. So a check is a search for a fault (`verify_eq`, `verifyImpls_eq`,
`forM_outcome`), and what passes has none (`verifyImpls_eq_ok_iff`, `covers_of_checkSpec`).
-/

namespace Plugboard

/-- Why a handler of a plugin does not fit a specification: its first parameter that the
    specification lacks. -/
def mismatch? (spec : HookSpec) (plugin : String) (impl : HookImpl) : Option PluginError :=
  (impl.params.find? (· ∉ spec.params)).map fun argument =>
    .argMismatch plugin spec.name argument spec.params

/-- The outcome of a check that may find a fault. -/
def outcome : Option PluginError → Except PluginError Unit
  | some e => .error e
  | none => .ok ()

/-- To check a handler against a specification is to look for a parameter that this lacks. -/
theorem verify_eq (spec : HookSpec) (plugin : String) (impl : HookImpl) :
    Registry.verify spec plugin impl = outcome (mismatch? spec plugin impl) := by
  have hsurplus : spec.surplus? impl.params = impl.params.find? (· ∉ spec.params) := by
    simp [HookSpec.surplus?]
  rw [Registry.verify, hsurplus, mismatch?]
  cases impl.params.find? (· ∉ spec.params) <;> rfl

/-- To check one thing after another is to look for the first fault. -/
theorem forM_outcome {α : Type} (fault? : α → Option PluginError) (xs : List α) :
    xs.forM (fun x => outcome (fault? x)) = outcome (xs.findSome? fault?) := by
  induction xs with
  | nil => rfl
  | cons x rest ih =>
    show (outcome (fault? x) >>= fun _ => rest.forM fun x => outcome (fault? x)) = _
    rw [ih, List.findSome?_cons]
    cases fault? x <;> rfl

/-- To check handlers is to look for the first that does not fit. -/
theorem verifyImpls_eq (r : Registry) (name : String) (impls : List HookImpl) :
    r.verifyImpls name impls = outcome (impls.findSome? fun impl =>
      (r.specs.get? impl.hook).bind (mismatch? · name impl)) := by
  induction impls with
  | nil => rfl
  | cons impl rest ih =>
    rw [Registry.verifyImpls, List.findSome?_cons, ih]
    cases r.specs.get? impl.hook with
    | none => rfl
    | some spec =>
      rw [Option.map_some, Option.bind_some, verify_eq]
      cases mismatch? spec name impl <;> rfl

/-! ## What passes a check -/

/-- A handler takes no parameter that the specification lacks. -/
def HookSpec.Covers (spec : HookSpec) (impl : HookImpl) : Prop :=
  ∀ param ∈ impl.params, param ∈ spec.params

/-- A handler fits if the specification has all of its parameters. -/
theorem mismatch?_eq_none_iff (spec : HookSpec) (plugin : String) (impl : HookImpl) :
    mismatch? spec plugin impl = none ↔ spec.Covers impl := by
  simp [mismatch?, HookSpec.Covers]

/-- A check passes if no fault is found. -/
theorem outcome_eq_ok_iff {fault? : Option PluginError} :
    outcome fault? = .ok () ↔ fault? = none := by
  cases fault? <;> simp [outcome]

/-- Handlers pass if each fits the specification of its hook, should there be one. -/
theorem verifyImpls_eq_ok_iff (r : Registry) (name : String) (impls : List HookImpl) :
    r.verifyImpls name impls = .ok () ↔
      ∀ impl ∈ impls, ∀ spec, r.specs.get? impl.hook = some spec → spec.Covers impl := by
  rw [verifyImpls_eq, outcome_eq_ok_iff, List.findSome?_eq_none_iff]
  simp only [Option.bind_eq_none_iff, mismatch?_eq_none_iff]

/-- Checks made in turn pass if each does. -/
theorem forM_eq_ok_iff {α : Type} (check : α → Except PluginError Unit) (xs : List α) :
    xs.forM check = .ok () ↔ ∀ x ∈ xs, check x = .ok () := by
  induction xs with
  | nil => simp [pure, Except.pure]
  | cons x rest ih =>
    have hcons : (x :: rest).forM check = (check x >>= fun _ => rest.forM check) := rfl
    rw [hcons, List.forall_mem_cons, ← ih]
    cases check x with
    | error e => simp [bind, Except.bind]
    | ok u => simp [bind, Except.bind]

/-- The handlers that a registry holds for a hook fit a specification that passes. -/
theorem covers_of_checkSpec {r : Registry} {spec : HookSpec} (h : r.checkSpec spec = .ok ())
    {entry : HookEntry} (hentry : entry ∈ r.hooks.impls spec.name) : spec.Covers entry.impl := by
  rw [Registry.checkSpec] at h
  cases hcheck : r.specs.check spec with
  | error e =>
    rw [hcheck] at h
    cases h
  | ok new =>
    rw [hcheck] at h
    have hverify := (forM_eq_ok_iff _ _).1 h entry hentry
    rw [verify_eq, outcome_eq_ok_iff] at hverify
    exact (mismatch?_eq_none_iff spec entry.plugin entry.impl).1 hverify

end Plugboard
