import Plugboard.Proofs.Hook.Failures
import Plugboard.Proofs.Manager.Run

/-!
# Calling a hook

A call reads the table of handlers and never looks at the bindings. What it does can still be told
from the bindings alone: walk the bound plugins in the order of binding and the handlers of each in
the order in which it declares them, pass over those of other hooks, and stop at the first failure.
This is `Registry.dispatch`.

On a coherent registry a call has the outcome of this walk and reports what its handlers report
(`Coherent.invoke_result`, `Coherent.events_suffix`), so it has after every run of a manager.
-/

namespace Plugboard

/-- The handlers that a bound plugin declares, each with the name that the plugin is bound to. -/
def Binding.handlers (b : Binding) : List (String × HookImpl) :=
  b.plugin.impls.map (b.name, ·)

/-- Walks handlers of named plugins, passing over those of other hooks. Each handler is given the
    arguments that it declares and no others. The first that lacks an argument or fails ends the
    walk. -/
def walk (hook : String) (args : Args) :
    List (String × HookImpl) → Traced (Except PluginError (List Json))
  | [] => { result := .ok [] }
  | (plugin, impl) :: rest =>
    if impl.hook ≠ hook then walk hook args rest
    else match impl.params.find? fun param => !args.contains param with
      | some param => { result := .error (.missingArgument hook plugin param) }
      | none =>
        let answer := impl.handler (args.restrict impl.params)
        match answer.result with
        | .error e => { result := .error (.handlerFailed hook plugin e), events := answer.events }
        | .ok value =>
          let more := walk hook args rest
          { result := more.result.map (value.toList ++ ·), events := answer.events ++ more.events }

namespace HookCaller

/-- Calling the handlers of a hook is walking all handlers. -/
theorem callAll_eq_walk (hook : String) (args : Args) (entries : List HookEntry) :
    callAll hook args (entries.filter (·.impl.hook = hook)) =
      walk hook args (entries.map fun entry => (entry.plugin, entry.impl)) := by
  induction entries with
  | nil => rfl
  | cons entry rest ih =>
    by_cases hhook : entry.impl.hook = hook
    · -- a handler of the hook: both sides look for its arguments and run it
      simp only [List.filter_cons, hhook, decide_true, ↓reduceIte, List.map_cons, walk, ne_eq,
        not_true_eq_false, callAll, callOne_eq]
      cases entry.impl.params.find? fun param => !args.contains param with
      | some param => rfl
      | none =>
        cases hanswer : (entry.impl.handler (args.restrict entry.impl.params)).result with
        | error e => simp [Except.mapError]
        | ok value => simp [Except.mapError, ih]
    · -- any other is filtered out on one side and passed over on the other
      simpa [hhook, walk] using ih

end HookCaller

/-- Why a walk may end before the last handler: a handler of the hook declares an argument that is
    not passed, or it fails. -/
inductive Ends (hook : String) (args : Args) (handlers : List (String × HookImpl)) :
    PluginError → Prop where
  | missing {plugin : String} {impl : HookImpl} {param : String}
      (mem : (plugin, impl) ∈ handlers) (implements : impl.hook = hook)
      (declared : param ∈ impl.params) (absent : args.contains param = false) :
      Ends hook args handlers (.missingArgument hook plugin param)
  | failed {plugin : String} {impl : HookImpl} {e : AppError}
      (mem : (plugin, impl) ∈ handlers) (implements : impl.hook = hook)
      (fails : (impl.handler (args.restrict impl.params)).result = .error e) :
      Ends hook args handlers (.handlerFailed hook plugin e)

/-- What ends a walk over handlers ends a walk that begins with one more. -/
theorem Ends.cons {hook : String} {args : Args} {handlers : List (String × HookImpl)}
    {e : PluginError} (h : Ends hook args handlers e) (first : String × HookImpl) :
    Ends hook args (first :: handlers) e := by
  cases h with
  | missing mem implements declared absent =>
    exact .missing (List.mem_cons_of_mem first mem) implements declared absent
  | failed mem implements fails => exact .failed (List.mem_cons_of_mem first mem) implements fails

/-- A walk that ends early has a reason. -/
theorem ends_of_walk_eq_error {hook : String} {args : Args} {handlers : List (String × HookImpl)}
    {e : PluginError} (h : (walk hook args handlers).result = .error e) :
    Ends hook args handlers e := by
  induction handlers with
  | nil => cases h
  | cons first rest ih =>
    obtain ⟨plugin, impl⟩ := first
    rw [walk] at h
    -- what is passed over cannot fail, so the failure is here or further on
    split at h
    · exact (ih h).cons _
    · rename_i hhook
      have hhook : impl.hook = hook := Classical.not_not.1 hhook
      split at h
      · rename_i param hparam
        cases h
        exact .missing List.mem_cons_self hhook (List.mem_of_find?_eq_some hparam)
          (by simpa using List.find?_some hparam)
      · cases hanswer : (impl.handler (args.restrict impl.params)).result with
        | error source =>
          simp only [hanswer] at h
          cases h
          exact .failed List.mem_cons_self hhook hanswer
        | ok value =>
          cases hmore : (walk hook args rest).result with
          | error source =>
            simp only [hanswer, hmore, Except.map] at h
            cases h
            exact (ih hmore).cons _
          | ok values =>
            simp only [hanswer, hmore, Except.map] at h
            cases h

namespace Registry

/-- Whether a bound plugin implements a hook. -/
def implements (r : Registry) (hook : String) : Bool :=
  r.bindings.any fun b => b.plugin.impls.any (·.hook = hook)

/-- What calling a hook comes down to. -/
def dispatch (r : Registry) (hook : String) (args : Args) :
    Traced (Except PluginError (List Json)) :=
  if r.specs.contains hook || r.implements hook then
    walk hook args (r.bindings.flatMap (·.handlers))
  else { result := .error (.unknownHook hook) }

/-- A hook is unknown to a dispatch exactly if it is neither specified nor implemented. -/
theorem dispatch_eq_unknownHook_iff (r : Registry) (hook : String) (args : Args) :
    (r.dispatch hook args).result = .error (.unknownHook hook) ↔
      r.specs.get? hook = none ∧
        ∀ b ∈ r.bindings, ∀ impl ∈ b.plugin.impls, impl.hook ≠ hook := by
  -- a hook is known if it is specified or implemented
  have hknown : (r.specs.contains hook || r.implements hook) = false ↔ r.specs.get? hook = none ∧
      ∀ b ∈ r.bindings, ∀ impl ∈ b.plugin.impls, impl.hook ≠ hook := by
    simp [SpecTable.contains, implements]
  rw [← hknown, dispatch]
  split
  · rename_i hcall
    rw [hcall]
    constructor
    · intro herror
      cases ends_of_walk_eq_error herror
    · intro hfalse
      cases hfalse
  · rename_i hcall
    simp [hcall]

/-- The handlers offered for a hook are those of the hook among all that are declared. -/
theorem offered_eq (r : Registry) (hook : String) :
    r.offered hook = (r.bindings.flatMap fun b =>
      b.plugin.impls.map (HookEntry.mk · b.name b.plugin.key)).filter (·.impl.hook = hook) := by
  rw [offered, List.filter_flatMap]
  refine List.flatMap_congr fun b _ => ?_
  rw [Binding.offers, List.filter_map]
  rfl

/-- To call the handlers offered for a hook is to walk over the bound plugins. -/
theorem callAll_offered (r : Registry) (hook : String) (args : Args) :
    HookCaller.callAll hook args (r.offered hook) =
      walk hook args (r.bindings.flatMap (·.handlers)) := by
  rw [offered_eq, HookCaller.callAll_eq_walk, List.map_flatMap]
  refine congrArg (walk hook args) (List.flatMap_congr fun b _ => ?_)
  rw [Binding.handlers, List.map_map]
  rfl

/-- No handlers are offered for a hook that nobody implements. -/
theorem offered_eq_nil_iff (r : Registry) (hook : String) :
    r.offered hook = [] ↔ r.implements hook = false := by
  simp [offered, Binding.offers, implements]

namespace Coherent

variable {r : Registry} (h : r.Coherent)
include h

/-- A hook is ready to be called with the handlers that the bound plugins offer, unless it is
    unknown. -/
theorem hook_eq (name : String) :
    r.hook name = if r.specs.contains name || r.implements name then
      .ok ⟨name, r.specs.get? name, r.offered name⟩ else .error (.unknownHook name) := by
  rw [hook, h.impls_eq]
  cases hspec : r.specs.get? name with
  | some spec => simp [SpecTable.contains, hspec]
  | none =>
    -- without a specification the handlers offered make the hook known
    cases hoffered : r.offered name with
    | nil => simp [SpecTable.contains, hspec, (r.offered_eq_nil_iff name).1 hoffered]
    | cons entry rest =>
      have himpl : r.implements name = true := by
        rw [← Bool.not_eq_false, ← r.offered_eq_nil_iff, hoffered]
        simp
      simp [himpl]

/-- To invoke a hook has the outcome of the walk. -/
theorem invoke_result (hook : String) (args : Args) :
    (r.invoke hook args).result = (r.dispatch hook args).result := by
  rw [invoke, h.hook_eq, dispatch]
  cases r.specs.contains hook || r.implements hook with
  | true =>
    rw [if_pos rfl, ← r.callAll_offered hook args]
    rfl
  | false => rfl

/-- Before its handlers report anything, a call announces itself. -/
theorem events_suffix (hook : String) (args : Args) :
    (r.dispatch hook args).events <:+ (r.invoke hook args).events := by
  rw [invoke, h.hook_eq, dispatch]
  cases r.specs.contains hook || r.implements hook with
  | true =>
    rw [if_pos rfl, ← r.callAll_offered hook args]
    exact List.suffix_append _ _
  | false => exact List.nil_suffix

end Coherent

end Registry

/-- After every run, a call of a hook is a walk over the bound plugins. -/
theorem Manager.invoke_after_run (project : String) (ops : List Op) (hook : String) (args : Args) :
    let m := (Manager.new project).run ops
    (m.invoke hook args).result = (m.registry.dispatch hook args).result ∧
      (m.registry.dispatch hook args).events <:+ (m.invoke hook args).events ∧
      ((m.invoke hook args).result = .error (.unknownHook hook) ↔
        m.registry.specs.get? hook = none ∧
          ∀ b ∈ m.registry.bindings, ∀ impl ∈ b.plugin.impls, impl.hook ≠ hook) := by
  intro m
  have h : m.registry.Coherent := (coherent_run project ops).registry
  refine ⟨h.invoke_result hook args, h.events_suffix hook args, ?_⟩
  rw [← m.registry.dispatch_eq_unknownHook_iff hook args, ← h.invoke_result hook args]
  rfl

end Plugboard
