import Plugboard.Proofs.Manager.Run

/-!
# A manager and a registry in lockstep

A manager lays tables of its own over a registry. Whoever does not ask which plugins are internal
cannot tell it from a bare registry: the same calls give the same answers on both, and between them
every look-up, every check and every call of a hook comes out the same (`calls_agree`). So what is
kept by the calls on a registry holds of a manager's after every run (`registry_run`).

Neither layer is compared with itself here. The bare registry never hears of internal plugins, and
the registry below the manager sees the calls only as the manager hands them on.
-/

namespace Plugboard

/-- A list that is made of two others, whose members keep their order. -/
inductive Interleaving {α : Type} : List α → List α → List α → Prop where
  /-- Of nothing. -/
  | nil : Interleaving [] [] []
  /-- The first member comes from the first list. -/
  | left {x : α} {xs ys zs : List α} (rest : Interleaving xs ys zs) :
      Interleaving (x :: xs) ys (x :: zs)
  /-- The first member comes from the second list. -/
  | right {y : α} {xs ys zs : List α} (rest : Interleaving xs ys zs) :
      Interleaving xs (y :: ys) (y :: zs)

/-- A list is made of what a filter drops and what it keeps. -/
theorem interleaving_filter {α : Type} (q : α → Bool) (zs : List α) :
    Interleaving (zs.filter (!q ·)) (zs.filter q) zs := by
  induction zs with
  | nil => exact .nil
  | cons z rest ih =>
    cases hq : q z with
    | true => simpa [hq] using ih.right
    | false => simpa [hq] using ih.left

namespace Registry

/-- Makes a call. A registry binds an internal plugin as it binds any other. -/
def call (r : Registry) : Call → Answer × Registry
  | .register p asked | .registerWith p asked _ | .registerInternal p asked =>
    (.registered (r.register p asked).result, (r.register p asked).state)
  | .unregister s => (.unregistered (r.unregister s).result, (r.unregister s).state)
  | .setBlocked name => (.blocked, (r.setBlocked name).state)
  | .addSpecs container =>
    (.specified (r.addSpecs container).result, (r.addSpecs container).state)

/-- Makes calls one after another, and collects the answers. -/
def calls (r : Registry) : List Call → List Answer × Registry
  | [] => ([], r)
  | c :: rest =>
    let (answer, next) := r.call c
    let (answers, last) := next.calls rest
    (answer :: answers, last)

end Registry

namespace Manager

/-- What a manager shows is what a registry shows, and the internal and the external bindings, which
    have neither a name nor an object in common, make up the bindings of the registry. -/
structure Agrees (m : Manager) (r : Registry) : Prop where
  isBlocked_eq : ∀ name, m.isBlocked name = r.isBlocked name
  plugin?_eq : ∀ name, m.plugin? name = r.plugin? name
  nameOf?_eq : ∀ key, m.nameOf? key = r.nameOf? key
  hasPlugin_eq : ∀ name, m.hasPlugin name = r.hasPlugin name
  isRegistered_eq : ∀ key, m.isRegistered key = r.isRegistered key
  plugins_eq : m.plugins = r.plugins
  specs_eq : m.registry.specs.specs = r.specs.specs
  checkPending_eq : m.checkPending = r.checkPending
  hookNames?_eq : ∀ key, m.hookNames? key = r.hookNames? key
  invoke_eq : ∀ hook args, m.invoke hook args = r.invoke hook args
  interleaving : Interleaving m.externalBindings m.internalBindings r.bindings
  names_ne : ∀ a ∈ m.externalBindings, ∀ b ∈ m.internalBindings, a.name ≠ b.name
  keys_ne : ∀ a ∈ m.externalBindings, ∀ b ∈ m.internalBindings, a.plugin.key ≠ b.plugin.key

/-- No external plugin shares its name with an internal one. -/
theorem external_name_ne_internal {m : Manager} {a b : Binding} (ha : a ∈ m.externalBindings)
    (hb : b ∈ m.internalBindings) : a.name ≠ b.name := by
  intro hname
  have hexternal : (!m.holdsInternal a.name) = true := (List.mem_filter.1 ha).2
  have hinternal : m.holdsInternal b.name = true := (List.mem_filter.1 hb).2
  rw [hname, hinternal] at hexternal
  cases hexternal

namespace Coherent

variable {m : Manager} (h : m.Coherent)
include h

/-- A coherent manager agrees with the registry below it. -/
theorem agrees : m.Agrees m.registry where
  isBlocked_eq := h.isBlocked_eq
  plugin?_eq := h.plugin?_eq
  nameOf?_eq := h.nameOf?_eq
  hasPlugin_eq := h.hasPlugin_eq
  isRegistered_eq := h.isRegistered_eq
  plugins_eq := rfl
  specs_eq := rfl
  checkPending_eq := rfl
  hookNames?_eq := fun _ => rfl
  invoke_eq := fun _ _ => rfl
  interleaving := interleaving_filter _ m.registry.bindings
  names_ne := fun _ ha _ hb => external_name_ne_internal ha hb
  keys_ne := by
    intro a ha b hb hkey
    -- one object has one name, and the names differ
    have hname := h.registry.name_inj (List.mem_filter.1 ha).1 (List.mem_filter.1 hb).1 hkey
    exact external_name_ne_internal ha hb hname

/-- A call on a manager has the answer that it has on the registry below, and leaves that registry
    as it would be left by the call alone. -/
theorem registry_call (c : Call) :
    m.registry.call c = ((m.call c).1, (m.call c).2.registry) := by
  -- whether a plugin is internal is known to the manager only
  have hregister : ∀ p asked internal,
      (Answer.registered (m.registry.register p asked).result,
        (m.registry.register p asked).state) =
      (Answer.registered (m.registerWith p asked internal).result,
        (m.registerWith p asked internal).state.registry) := by
    intro p asked internal
    rw [h.registerWith_result, h.registerWith_registry]
  cases c with
  | register p asked => exact hregister p asked false
  | registerWith p asked internal => exact hregister p asked internal
  | registerInternal p asked => exact hregister p asked true
  | unregister s =>
    show (Answer.unregistered _, _) = (Answer.unregistered _, (m.unregister s).state.registry)
    rw [h.unregister_result, h.unregister_registry]
  | setBlocked name =>
    show (Answer.blocked, _) = (Answer.blocked, (m.setBlocked name).state.registry)
    rw [h.setBlocked_registry]
  | addSpecs container => rfl

/-- So do calls that follow one another. -/
theorem registry_calls (cs : List Call) :
    m.registry.calls cs = ((m.calls cs).1, (m.calls cs).2.registry) := by
  induction cs generalizing m with
  | nil => rfl
  | cons c rest ih =>
    simp only [Registry.calls, Manager.calls, h.registry_call c, ih (h.call c)]

end Coherent

/-- What every call keeps of a coherent registry is true of the registry below a manager after every
    run, if it is true of a new one. -/
theorem registry_run {P : Registry → Prop} (hcall : ∀ r c, r.Coherent → P r → P (r.call c).2)
    {project : String} (h : P (.new project)) (ops : List Op) :
    P ((Manager.new project).run ops).registry := by
  -- only a coherent manager hands its calls on as they are
  have hboth : ((Manager.new project).run ops).Coherent ∧
      P ((Manager.new project).run ops).registry := by
    refine run_induction (P := fun m => m.Coherent ∧ P m.registry) ?_ ?_ ?_ ?_
      ⟨coherent_new project, h⟩ ops
    · -- a call does to the registry below what the registry does itself
      intro m c hm
      have hregistry : (m.registry.call c).2 = (m.call c).2.registry :=
        congrArg Prod.snd (hm.1.registry_call c)
      exact ⟨hm.1.call c, hregistry ▸ hcall m.registry c hm.1.registry hm.2⟩
    · intro m d hm
      exact ⟨hm.1.congr rfl rfl rfl rfl, hm.2⟩
    · intro m supply finding hm
      exact ⟨hm.1.recordWith supply finding, hm.2⟩
    · intro m finding hm
      refine ⟨hm.1.disable finding, ?_⟩
      rw [disable_eq]
      exact hm.2
  exact hboth.2

/-- The same calls on a new manager and on a new registry of the same project: every answer is the
    same, and after them both show the same. -/
theorem calls_agree (project : String) (cs : List Call) :
    ((Manager.new project).calls cs).1 = ((Registry.new project).calls cs).1 ∧
      ((Manager.new project).calls cs).2.Agrees ((Registry.new project).calls cs).2 := by
  have hnew : (Manager.new project).registry = Registry.new project := rfl
  have hcalls := (coherent_new project).registry_calls cs
  rw [← hnew, hcalls]
  exact ⟨rfl, ((coherent_new project).calls cs).agrees⟩

end Manager

end Plugboard
