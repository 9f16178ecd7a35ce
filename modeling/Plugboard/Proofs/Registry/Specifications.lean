import Plugboard.Proofs.Hook.Spec
import Plugboard.Proofs.Registry.Checks
import Plugboard.Proofs.Registry.Operations

/-!
# Adding a container of specifications

A container is stored in two rounds. In the first each specification is checked against the registry
as it is, and if one does not pass nothing is stored. In the second they are stored one after
another, and each meets the table that those before it left (`addSpecs_cases`). So two
specifications of one container that contradict each other pass the first round and fail in the
second, when part of the container is stored already: this, and nothing else, keeps a failure from
leaving everything as it was (`addSpecs_of_error`).

A container that is accepted is listed afterwards, as far as it carries the tag of the project, and
nothing else is added to the list (`Specified.mem_addSpecs_iff`).
-/

namespace Plugboard.Registry

/-- The specifications of a container that carry the tag of the project. -/
def own (r : Registry) (container : SpecContainer) : List HookSpec :=
  container.specs.filter (·.project = r.project)

/-- A container has something for the project, and each of its specifications passes for itself. -/
def Passes (r : Registry) (container : SpecContainer) : Prop :=
  r.own container ≠ [] ∧ ∀ spec ∈ r.own container, r.checkSpec spec = .ok ()

/-- Each specification of a container passes for itself, but two of them contradict each other. -/
def StoresInPart (r : Registry) (container : SpecContainer) : Prop :=
  r.Passes container ∧ ¬(r.own container).Pairwise HookSpec.Compatible

/-- Of a container those specifications count that carry the tag of the project. -/
theorem mem_own {r : Registry} {container : SpecContainer} {spec : HookSpec} :
    spec ∈ r.own container ↔ spec ∈ container.specs ∧ spec.project = r.project := by
  simp [own]

/-- A container that does not pass is refused and changes nothing; one that passes is stored as far
    as its specifications can be added one after another. -/
theorem addSpecs_cases (r : Registry) (container : SpecContainer) :
    (¬r.Passes container ∧ (r.addSpecs container).state = r ∧
        ∃ e, (r.addSpecs container).result = .error e) ∨
      (r.Passes container ∧
        (r.addSpecs container).result = (r.specs.addAll (r.own container)).result ∧
        (r.addSpecs container).state =
          { r with specs := (r.specs.addAll (r.own container)).state }) := by
  have hown : container.specs.filter (·.project = r.project) = r.own container := rfl
  by_cases hempty : r.own container = []
  · have hpasses : ¬r.Passes container := fun h => h.1 hempty
    refine .inl ⟨hpasses, ?_⟩
    simp [addSpecs, hown, hempty]
  · cases hcheck : (r.own container).forM r.checkSpec with
    | error e =>
      -- the check that failed is one that a passing container would not fail
      have hpasses : ¬r.Passes container := by
        intro h
        rw [(forM_eq_ok_iff _ _).2 h.2] at hcheck
        cases hcheck
      refine .inl ⟨hpasses, ?_⟩
      simp [addSpecs, hown, hempty, hcheck]
    | ok u =>
      refine .inr ⟨⟨hempty, (forM_eq_ok_iff _ _).1 hcheck⟩, ?_⟩
      simp only [addSpecs, hown, List.isEmpty_iff, hempty, ↓reduceIte, hcheck]
      -- what is reported depends on the outcome; the outcome itself and the state do not
      cases (r.specs.addAll (r.own container)).result with
      | error e => exact ⟨rfl, rfl⟩
      | ok u => exact ⟨rfl, rfl⟩

/-- What passes a check does not contradict what is stored. -/
theorem accepts_of_checkSpec {r : Registry} {spec : HookSpec} (h : r.checkSpec spec = .ok ()) :
    r.specs.Accepts spec := by
  intro existing hget
  by_contra hparams
  have hcheck : r.specs.check spec =
      .error (.specConflict spec.name existing.params spec.params) := by
    simp [SpecTable.check, hget, hparams]
  rw [checkSpec, hcheck] at h
  cases h

/-- What passes the first round suits the table as it was then. -/
theorem Passes.accepts {r : Registry} {container : SpecContainer} (h : r.Passes container) :
    ∀ spec ∈ r.own container, r.specs.Accepts spec :=
  fun spec hmem => accepts_of_checkSpec (h.2 spec hmem)

/-- A container is accepted if it passes and does not contradict itself. -/
theorem addSpecs_eq_ok_iff (r : Registry) (container : SpecContainer) :
    (r.addSpecs container).result = .ok () ↔
      r.Passes container ∧ (r.own container).Pairwise HookSpec.Compatible := by
  rcases r.addSpecs_cases container with ⟨hpasses, -, e, he⟩ | ⟨hpasses, hresult, -⟩
  · simp [he, hpasses]
  · rw [hresult, SpecTable.addAll_eq_ok_iff]
    exact and_congr (iff_of_true hpasses.accepts hpasses) Iff.rfl

/-- A container that is refused leaves everything as it was, unless it is stored in part: then a
    hook is specified that was not. -/
theorem addSpecs_of_error {r : Registry} {container : SpecContainer} {e : PluginError}
    (h : (r.addSpecs container).result = .error e) :
    (¬r.StoresInPart container ∧ (r.addSpecs container).state = r) ∨
      (r.StoresInPart container ∧ ∃ spec ∈ r.own container, r.specs.get? spec.name = none ∧
        (r.addSpecs container).state.specs.get? spec.name = some spec) := by
  rcases r.addSpecs_cases container with ⟨hpasses, hstate, -⟩ | ⟨hpasses, hresult, hstate⟩
  · exact .inl ⟨fun hpart => hpasses hpart.1, hstate⟩
  · -- it passed the first round, so it can have failed in the second only
    have hcontradicts : ¬(r.own container).Pairwise HookSpec.Compatible := by
      intro hcompatible
      rw [(r.addSpecs_eq_ok_iff container).2 ⟨hpasses, hcompatible⟩] at h
      cases h
    refine .inr ⟨⟨hpasses, hcontradicts⟩, ?_⟩
    rw [hstate]
    exact SpecTable.exists_stored_of_addAll_error hpasses.accepts (hresult ▸ h)

/-- Refused or not, a container leaves a table behind that adding its specifications leads to. -/
theorem specs_addSpecs_of_addAll {P : SpecTable → Prop} {r : Registry} {container : SpecContainer}
    (h : P r.specs) (hadded : P (r.specs.addAll (r.own container)).state) :
    P (r.addSpecs container).state.specs := by
  rcases r.addSpecs_cases container with ⟨-, hstate, -⟩ | ⟨-, -, hstate⟩
  · rw [hstate]
    exact h
  · rw [hstate]
    exact hadded

/-! ## Registries of a project -/

/-- The specifications of a registry are in order: table and list say the same, and all carry the
    tag of the project. -/
structure Specified (project : String) (r : Registry) : Prop where
  project_eq : r.project = project
  wellFormed : r.specs.WellFormed
  tagged : ∀ spec ∈ r.specs.specs, spec.project = project

/-- A new registry has no specifications. -/
theorem specified_new (project : String) : Specified project (.new project) :=
  ⟨rfl, SpecTable.wellFormed_empty, fun _ hmem => nomatch hmem⟩

namespace Specified

variable {project : String} {r : Registry} (h : Specified project r)
include h

/-- Specifying extends the list, even where it fails half way. -/
theorem specs_prefix_addSpecs (container : SpecContainer) :
    r.specs.specs <+: (r.addSpecs container).state.specs.specs :=
  specs_addSpecs_of_addAll (P := fun t => r.specs.specs <+: t.specs) (List.prefix_refl _)
    (h.wellFormed.specs_prefix_addAll (r.own container))

/-- What is listed after specifying was listed before or belongs to the container. -/
theorem mem_specs_of_addSpecs {container : SpecContainer} {spec : HookSpec}
    (hmem : spec ∈ (r.addSpecs container).state.specs.specs) :
    spec ∈ r.specs.specs ∨ spec ∈ container.specs ∧ spec.project = project := by
  rcases r.addSpecs_cases container with ⟨-, hstate, -⟩ | ⟨-, -, hstate⟩
  · rw [hstate] at hmem
    exact .inl hmem
  · rw [hstate, (h.wellFormed.addAll _).mem_specs_iff] at hmem
    rcases SpecTable.get?_of_addAll hmem with hold | ⟨hnew, -⟩
    · exact .inl (h.wellFormed.mem_specs_iff.2 hold)
    · rw [mem_own, h.project_eq] at hnew
      exact .inr hnew

/-- Adding a container keeps the specifications in order and under the tag. -/
theorem addSpecs (container : SpecContainer) :
    Specified project (r.addSpecs container).state where
  project_eq := by
    rw [addSpecs_state]
    exact h.project_eq
  wellFormed := specs_addSpecs_of_addAll h.wellFormed (h.wellFormed.addAll _)
  tagged := by
    intro spec hmem
    rcases h.mem_specs_of_addSpecs hmem with hold | ⟨-, hproject⟩
    · exact h.tagged spec hold
    · exact hproject

/-- A container that is accepted is listed as far as it carries the tag, each specification as it is
    declared, and nothing else is added to the list. -/
theorem mem_addSpecs_iff {container : SpecContainer}
    (hresult : (r.addSpecs container).result = .ok ()) {spec : HookSpec} :
    spec ∈ (r.addSpecs container).state.specs.specs ↔
      spec ∈ r.specs.specs ∨ spec ∈ container.specs ∧ spec.project = project := by
  refine ⟨h.mem_specs_of_addSpecs, ?_⟩
  rintro (hold | ⟨hmem, hproject⟩)
  · exact (h.specs_prefix_addSpecs container).subset hold
  · -- the table has one of this name, with these parameters and with the same tag
    have hafter := h.addSpecs container
    rcases r.addSpecs_cases container with ⟨-, -, e, he⟩ | ⟨-, hadded, hstate⟩
    · rw [he] at hresult
      cases hresult
    · rw [hadded] at hresult
      have hown : spec ∈ r.own container := mem_own.2 ⟨hmem, hproject.trans h.project_eq.symm⟩
      obtain ⟨found, hget, hparams⟩ := SpecTable.get?_addAll_of_ok hresult hown
      have hfound : found ∈ (r.addSpecs container).state.specs.specs ∧ found.name = spec.name := by
        rw [← hafter.wellFormed.get?_eq_some_iff, hstate]
        exact hget
      have htag : found.project = spec.project :=
        (hafter.tagged found hfound.1).trans hproject.symm
      -- name, parameters and tag are all there is to a specification
      have hsame : found = spec := by
        cases found
        cases spec
        rw [HookSpec.mk.injEq]
        exact ⟨hfound.2, hparams, htag⟩
      exact hsame ▸ hfound.1

end Specified

end Plugboard.Registry
