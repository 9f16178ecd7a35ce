import Plugboard.Proofs.Manager.Conformance

/-!
# What a call depends on

A call of a hook looks at the arguments that the hook's specification lists and at those that its
handlers declare (`HookCaller.Agree`). Two sets of arguments that agree on these are the same to it:
each handler is given the same, the first to lack an argument lacks the same one, and what is
reported on the way is the same (`Agree.call_eq`, `Agree.callLenient_eq`).

After every run the handlers of a specified hook declare only what the specification lists, so that
nothing else can make a difference to a call, whatever the handlers do.
-/

namespace Plugboard

/-- Two sets of arguments agree on some parameters: each has the same value in both, or none in
    both. -/
def Args.AgreeOn (params : List String) (a b : Args) : Prop :=
  ∀ param ∈ params, a.get? param = b.get? param

namespace HookCaller

variable {a b : Args}

/-! ## Handlers -/

/-- A handler is called alike with arguments that agree on those it declares. -/
theorem callOne_congr {entry : HookEntry} (h : Args.AgreeOn entry.impl.params a b)
    (hook : String) : callOne hook entry a = callOne hook entry b := by
  rw [callOne, callOne, Args.select_congr h]

/-- So are handlers that are called until one fails. -/
theorem callAll_congr {entries : List HookEntry}
    (h : ∀ entry ∈ entries, Args.AgreeOn entry.impl.params a b) (hook : String) :
    callAll hook a entries = callAll hook b entries := by
  induction entries with
  | nil => rfl
  | cons entry rest ih =>
    obtain ⟨hentry, hrest⟩ := List.forall_mem_cons.1 h
    -- the first answer is the same, so that both calls stop there or both go on
    rw [callAll, callAll, callOne_congr hentry, ih hrest]

/-- So are handlers that are called one and all. -/
theorem callEach_congr {entries : List HookEntry}
    (h : ∀ entry ∈ entries, Args.AgreeOn entry.impl.params a b) (hook : String) :
    callEach hook a entries = callEach hook b entries := by
  induction entries with
  | nil => rfl
  | cons entry rest ih =>
    obtain ⟨hentry, hrest⟩ := List.forall_mem_cons.1 h
    rw [callEach, callEach, callOne_congr hentry, ih hrest]

/-! ## Calls -/

/-- Two sets of arguments agree on all that a call looks at. -/
structure Agree (caller : HookCaller) (a b : Args) : Prop where
  spec : ∀ spec ∈ caller.spec?, Args.AgreeOn spec.params a b
  entries : ∀ entry ∈ caller.entries, Args.AgreeOn entry.impl.params a b

namespace Agree

variable {caller : HookCaller} (h : caller.Agree a b)
include h

/-- The specification is looked at for what to report about missing arguments. -/
theorem opening_eq : caller.opening a = caller.opening b := by
  have hmissing : caller.missing a = caller.missing b := by
    cases hspec : caller.spec? with
    | none => simp only [missing, hspec]
    | some spec =>
      simp only [missing, hspec]
      refine List.filter_congr fun param hparam => ?_
      rw [Args.contains, Args.contains, h.spec spec hspec param hparam]
  simp only [opening, hmissing]

/-- A call is the same with arguments that agree on what it looks at. -/
theorem call_eq : caller.call a = caller.call b := by
  rw [call, call, callAll_congr h.entries, h.opening_eq]

/-- So is a lenient call. -/
theorem callLenient_eq : caller.callLenient a = caller.callLenient b := by
  rw [callLenient, callLenient, callEach_congr h.entries, h.opening_eq]

end Agree

end HookCaller

namespace Registry

/-- A specified hook is ready to be called with all its handlers, even if there are none. -/
theorem hook_of_specified {r : Registry} {hook : String} {spec : HookSpec}
    (hspec : r.specs.get? hook = some spec) :
    r.hook hook = .ok ⟨hook, some spec, r.hooks.impls hook⟩ := by
  rw [Registry.hook, hspec]

/-- Where handlers conform, the parameters of the specification are all that a call looks at. -/
theorem Conforms.agree {r : Registry} (h : r.Conforms) {hook : String} {spec : HookSpec}
    (hspec : r.specs.get? hook = some spec) {a b : Args} (hargs : Args.AgreeOn spec.params a b) :
    HookCaller.Agree ⟨hook, some spec, r.hooks.impls hook⟩ a b where
  spec := by
    rintro _ ⟨⟩
    exact hargs
  entries := by
    -- what a stored handler declares is among the parameters of the specification
    intro entry hentry param hparam
    exact hargs param (h hook spec hspec entry hentry param hparam)

/-- To invoke a specified hook looks at the arguments of its specification, and no others. -/
theorem Conforms.invoke_congr {r : Registry} (h : r.Conforms) {hook : String} {spec : HookSpec}
    (hspec : r.specs.get? hook = some spec) {a b : Args} (hargs : Args.AgreeOn spec.params a b) :
    r.invoke hook a = r.invoke hook b := by
  simp only [invoke, hook_of_specified hspec]
  exact (h.agree hspec hargs).call_eq

end Registry

namespace Manager

/-- So does invoking it leniently. -/
theorem invokeLenient_congr {m : Manager} (h : m.registry.Conforms) {hook : String}
    {spec : HookSpec} (hspec : m.registry.specs.get? hook = some spec) {a b : Args}
    (hargs : Args.AgreeOn spec.params a b) : m.invokeLenient hook a = m.invokeLenient hook b := by
  simp only [invokeLenient, Manager.hook, Registry.hook_of_specified hspec]
  rw [(h.agree hspec hargs).callLenient_eq]

/-- After every run, two calls of a specified hook with arguments that agree on the parameters of
    the specification have the same outcome and report the same, whatever else is passed and
    whatever the handlers do: whether a failure ends the call or is passed over, and as a template
    hook, too. -/
theorem undeclared_arguments_ignored (project : String) (ops : List Op) {hook : String}
    {spec : HookSpec}
    (hspec : ((Manager.new project).run ops).registry.specs.get? hook = some spec) {a b : Args}
    (hargs : Args.AgreeOn spec.params a b) :
    let m := (Manager.new project).run ops
    m.invoke hook a = m.invoke hook b ∧ m.invokeLenient hook a = m.invokeLenient hook b ∧
      ∀ silent, m.templateHook hook a silent = m.templateHook hook b silent := by
  intro m
  have hconforms : m.registry.Conforms := conforms_run project ops
  have hinvoke : m.invoke hook a = m.invoke hook b := hconforms.invoke_congr hspec hargs
  refine ⟨hinvoke, invokeLenient_congr hconforms hspec hargs, fun silent => ?_⟩
  rw [templateHook, templateHook, hinvoke]

/-- One of the two parameters is passed with the same text, the other is not passed; a password is
    passed in one of the calls alone. -/
theorem undeclared_arguments_ignored_password :
    let echo : Handler := fun args => { result := .ok ((args.text? "user").map .str) }
    let m := (Manager.new "forum").run [
      .call (.register (.make ⟨"greeter", 0⟩ { impls := [⟨"greet", ["user"], echo⟩] }) none),
      .call (.addSpecs ⟨"hooks", [⟨"greet", ["user", "page"], "forum"⟩]⟩)]
    let a : Args := ⟨[("user", .text "x"), ("password", .text "secret")]⟩
    let b : Args := ⟨[("user", .text "x")]⟩
    Args.AgreeOn ["user", "page"] a b ∧ m.invoke "greet" a = m.invoke "greet" b ∧
      m.invokeLenient "greet" a = m.invokeLenient "greet" b ∧
        ∀ silent, m.templateHook "greet" a silent = m.templateHook "greet" b silent := by
  intro echo m a b
  have hspec : m.registry.specs.get? "greet" = some ⟨"greet", ["user", "page"], "forum"⟩ := by
    decide +kernel
  have hargs : Args.AgreeOn ["user", "page"] a b :=
    List.forall_mem_cons.2 ⟨rfl, List.forall_mem_singleton.2 rfl⟩
  exact ⟨hargs, undeclared_arguments_ignored "forum" _ hspec hargs⟩

end Manager

end Plugboard
