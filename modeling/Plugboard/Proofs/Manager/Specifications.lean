import Plugboard.Proofs.Manager.Growth
import Plugboard.Proofs.Manager.Lockstep
import Plugboard.Proofs.Registry.Specifications

/-!
# Specifications over time

Specifications are only ever added. Of all that can be done to a registry or a manager only the
addition of a container touches them, and that extends the list, whether it succeeds or fails half
way; in every state the list names each hook once, under the tag of the project, and says what
look-ups say (`specs_only_accumulate`).

A container that is refused leaves no trace, with one exception: it leaves the first of its
specifications behind if each suits the registry and two of them contradict each other
(`refused_specs_traceless_iff`, `refused_specs_leave_trace`).
-/

namespace Plugboard

namespace SpecTable

/-- What a reader of the specifications of a project may rely on. -/
structure InOrder (project : String) (t : SpecTable) : Prop where
  /-- A hook is listed once. -/
  nodup_names : (t.specs.map (·.name)).Nodup
  /-- What is listed carries the tag of the project. -/
  project_eq : ∀ spec ∈ t.specs, spec.project = project
  /-- A look-up finds what is listed, and nothing else. -/
  get?_eq_some_iff : ∀ hook spec, t.get? hook = some spec ↔ spec ∈ t.specs ∧ spec.name = hook

/-- Just the specifications of a container that carry the tag were added, as they are declared. -/
def Gains (project : String) (container : SpecContainer) (before after : SpecTable) : Prop :=
  ∀ spec, spec ∈ after.specs ↔
    spec ∈ before.specs ∨ spec ∈ container.specs ∧ spec.project = project

end SpecTable

namespace Registry

/-- Only the addition of a container touches the specifications. -/
theorem call_specs (r : Registry) (c : Call) :
    (∃ container, c = .addSpecs container) ∨
      ((r.call c).2.project = r.project ∧ (r.call c).2.specs = r.specs) := by
  have hregister : ∀ p asked, (r.register p asked).state.project = r.project ∧
      (r.register p asked).state.specs = r.specs := by
    intro p asked
    rcases r.register_cases p asked with ⟨hstate, -⟩ | ⟨-, -, hstate⟩ <;> rw [hstate]
    · exact ⟨rfl, rfl⟩
    · exact ⟨rfl, rfl⟩
  have hunregister : ∀ s, (r.unregister s).state.project = r.project ∧
      (r.unregister s).state.specs = r.specs := by
    intro s
    rcases r.unregister_cases s with ⟨hstate, -⟩ | ⟨name, p, -, -, -, hstate⟩ <;> rw [hstate]
    · exact ⟨rfl, rfl⟩
    · exact ⟨rfl, rfl⟩
  cases c with
  | register p asked => exact .inr (hregister p asked)
  | registerWith p asked internal => exact .inr (hregister p asked)
  | registerInternal p asked => exact .inr (hregister p asked)
  | unregister s => exact .inr (hunregister s)
  | setBlocked name =>
    -- blocking unregisters, and then adds to the blocked names
    have hstate : (r.call (.setBlocked name)).2 = (r.setBlocked name).state := rfl
    rw [hstate, setBlocked_state, block_eq]
    exact .inr (hunregister (.name name))
  | addSpecs container => exact .inl ⟨container, rfl⟩

namespace Specified

variable {project : String} {r : Registry} (h : Specified project r)
include h

/-- Every call keeps the specifications in order and under the tag of the project. -/
theorem call (c : Call) : Specified project (r.call c).2 := by
  rcases r.call_specs c with ⟨container, rfl⟩ | ⟨hproject, hspecs⟩
  · exact h.addSpecs container
  · exact ⟨hproject.trans h.project_eq, hspecs ▸ h.wellFormed, hspecs ▸ h.tagged⟩

/-- So do calls that follow one another. -/
theorem calls (cs : List Call) : Specified project (r.calls cs).2 := by
  induction cs generalizing r with
  | nil => exact h
  | cons c rest ih => exact ih (h.call c)

/-- A call extends the list or leaves it as it is. -/
theorem specs_prefix_call (c : Call) : r.specs.specs <+: (r.call c).2.specs.specs := by
  rcases r.call_specs c with ⟨container, rfl⟩ | ⟨-, hspecs⟩
  · exact h.specs_prefix_addSpecs container
  · rw [hspecs]

/-- What is specified is listed in order: each hook once, and as look-ups find it. -/
theorem inOrder : r.specs.InOrder project where
  nodup_names := by
    rw [h.wellFormed.map_name_specs]
    exact h.wellFormed.nodup_order
  project_eq := h.tagged
  get?_eq_some_iff := fun _ _ => h.wellFormed.get?_eq_some_iff

end Specified

end Registry

namespace Manager

/-- What is specified in a manager after every run is in order. -/
theorem specified_run (project : String) (ops : List Op) :
    Registry.Specified project ((Manager.new project).run ops).registry :=
  registry_run (fun _ c _ h => h.call c) (Registry.specified_new project) ops

/-- Whatever is done to a manager extends the list or leaves it as it is. -/
theorem Coherent.specs_prefix_perform {m : Manager} (h : m.Coherent) {project : String}
    (hspecified : Registry.Specified project m.registry) (op : Op) :
    m.registry.specs.specs <+: (m.perform op).registry.specs.specs := by
  cases op with
  | call c =>
    have hregistry : (m.registry.call c).2 = (m.perform (.call c)).registry :=
      congrArg Prod.snd (h.registry_call c)
    rw [← hregistry]
    exact hspecified.specs_prefix_call c
  | setDiscovery d => exact List.prefix_refl _
  | disable finding =>
    have hstate : m.perform (.disable finding) = m.disable finding := rfl
    rw [hstate, disable_eq]
  | load files group only? =>
    -- a pass only binds plugins
    obtain ⟨new, hgrows, -⟩ := h.load_grows files group only?
    have hstate : m.perform (.load files group only?) = (m.load files group only?).state := rfl
    rw [hstate, hgrows.specs_eq]

/-- After any calls on a registry and after any run of a manager the specifications are in order,
    and whatever is done next extends their list or leaves it as it is. A container that is accepted
    adds its own specifications and nothing else. -/
theorem specs_only_accumulate (project : String) :
    (∀ cs, let r := ((Registry.new project).calls cs).2
      r.specs.InOrder project ∧ (∀ c, r.specs.specs <+: (r.call c).2.specs.specs) ∧
        ∀ container, (r.addSpecs container).result = .ok () →
          SpecTable.Gains project container r.specs (r.addSpecs container).state.specs) ∧
      ∀ ops, let m := (Manager.new project).run ops
        m.registry.specs.InOrder project ∧
          (∀ op, m.registry.specs.specs <+: (m.perform op).registry.specs.specs) ∧
          ∀ container, (m.addSpecs container).result = .ok () →
            SpecTable.Gains project container m.registry.specs
              (m.addSpecs container).state.registry.specs := by
  constructor
  · intro cs r
    have hr : Registry.Specified project r := (Registry.specified_new project).calls cs
    exact ⟨hr.inOrder, hr.specs_prefix_call, fun _ hresult _ => hr.mem_addSpecs_iff hresult⟩
  · intro ops m
    have hm : Registry.Specified project m.registry := specified_run project ops
    exact ⟨hm.inOrder, (coherent_run project ops).specs_prefix_perform hm,
      fun _ hresult _ => hm.mem_addSpecs_iff hresult⟩

/-- Of a container with a specification of the project and one of another tag the first is added, at
    the end of the list. -/
theorem specs_only_accumulate_mixed :
    let early : SpecContainer := ⟨"early", [⟨"greet", ["user"], "forum"⟩]⟩
    let mixed : SpecContainer := ⟨"mixed", [⟨"greet", ["page"], "wiki"⟩, ⟨"part", [], "forum"⟩]⟩
    let m := (Manager.new "forum").run [.call (.addSpecs early)]
    (m.addSpecs mixed).result = .ok () ∧
      SpecTable.Gains "forum" mixed m.registry.specs (m.addSpecs mixed).state.registry.specs ∧
      (m.addSpecs mixed).state.registry.specs.specs =
        [⟨"greet", ["user"], "forum"⟩, ⟨"part", [], "forum"⟩] := by
  intro early mixed m
  have hresult : (m.addSpecs mixed).result = .ok () := rfl
  obtain ⟨-, -, hgains⟩ := (specs_only_accumulate "forum").2 [.call (.addSpecs early)]
  exact ⟨hresult, hgains mixed hresult, by decide +kernel⟩

/-! ## Refused containers -/

/-- A container that a registry or a manager refuses leaves it exactly as it was, unless its
    specifications suit the registry one by one and contradict each other: then a hook is specified
    that was not. -/
theorem refused_specs_traceless_iff (container : SpecContainer) :
    (∀ (r : Registry) e, (r.addSpecs container).result = .error e →
      (¬r.StoresInPart container ∧ (r.addSpecs container).state = r) ∨
        (r.StoresInPart container ∧ ∃ spec ∈ r.own container, r.specs.get? spec.name = none ∧
          (r.addSpecs container).state.specs.get? spec.name = some spec)) ∧
      ∀ (m : Manager) e, (m.addSpecs container).result = .error e →
        (¬m.registry.StoresInPart container ∧ (m.addSpecs container).state = m) ∨
          (m.registry.StoresInPart container ∧
            ∃ spec ∈ m.registry.own container, m.registry.specs.get? spec.name = none ∧
              (m.addSpecs container).state.registry.specs.get? spec.name = some spec) := by
  refine ⟨fun r e h => Registry.addSpecs_of_error h, fun m e h => ?_⟩
  -- a manager hands the container on to its registry and keeps nothing of it
  rcases Registry.addSpecs_of_error h with ⟨hwhole, hstate⟩ | hpart
  · refine .inl ⟨hwhole, ?_⟩
    show { m with registry := (m.registry.addSpecs container).state } = m
    rw [hstate]
  · exact .inr hpart

/-- A container that contradicts what is specified is refused as a whole, though its first
    specification is new. -/
theorem refused_specs_traceless_late :
    let m := ((Manager.new "forum").addSpecs ⟨"early", [⟨"greet", ["user"], "forum"⟩]⟩).state
    let late : SpecContainer := ⟨"late", [⟨"part", [], "forum"⟩, ⟨"greet", ["page"], "forum"⟩]⟩
    (m.addSpecs late).result = .error (.specConflict "greet" ["user"] ["page"]) ∧
      (m.addSpecs late).state = m := by
  intro m late
  have hresult : (m.addSpecs late).result = .error (.specConflict "greet" ["user"] ["page"]) := rfl
  refine ⟨hresult, ?_⟩
  rcases (refused_specs_traceless_iff late).2 m _ hresult with ⟨-, hstate⟩ | ⟨⟨hpasses, -⟩, -⟩
  · exact hstate
  · -- the second specification does not pass
    have hcheck : m.registry.checkSpec ⟨"greet", ["page"], "forum"⟩ =
        .error (.specConflict "greet" ["user"] ["page"]) := rfl
    have hmem : (⟨"greet", ["page"], "forum"⟩ : HookSpec) ∈ m.registry.own late := by decide +kernel
    have hok := hpasses.2 _ hmem
    rw [hcheck] at hok
    cases hok

/-- A container that contradicts itself is refused and leaves its first specification behind, in a
    registry and in a manager. -/
theorem refused_specs_leave_trace :
    let container : SpecContainer :=
      ⟨"spec", [⟨"greet", ["user"], "forum"⟩, ⟨"greet", ["page"], "forum"⟩]⟩
    let base := (Registry.new "forum").addSpecs container
    let s := (Manager.new "forum").addSpecs container
    base.result = .error (.specConflict "greet" ["user"] ["page"]) ∧
      (Registry.new "forum").specs.specs = [] ∧
      base.state.specs.specs = [⟨"greet", ["user"], "forum"⟩] ∧
      s.result = .error (.specConflict "greet" ["user"] ["page"]) ∧
      s.state.registry.specs.specs = [⟨"greet", ["user"], "forum"⟩] := by
  decide +kernel

end Manager

end Plugboard
