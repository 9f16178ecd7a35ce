import Plugboard.Error
import Plugboard.Event
import Plugboard.Keyed

/-!
# Hook specifications

A host publishes its hooks: each has a name, the parameters that handlers may take, and the tag of
the project that it belongs to. A table holds one specification for a hook, and beside them the
order in which the hooks were specified. To specify a hook again with the same parameters changes
nothing; with others it is refused.

`add_cases` says all that adding can do, `get?_add` that a hook keeps the specification it has.
-/

namespace Plugboard

/-- The specification of a hook. -/
structure HookSpec where
  /-- The hook. -/
  name : String
  /-- The parameters that handlers may take. -/
  params : List String
  /-- The tag of the project that it belongs to. -/
  project : String
  deriving Repr, DecidableEq

namespace HookSpec

/-- The first parameter of a handler that the specification does not offer. -/
def surplus? (spec : HookSpec) (params : List String) : Option String :=
  params.find? fun p => !spec.params.contains p

/-- A specification in serialized form. -/
def toJson (spec : HookSpec) : Json :=
  .obj [("name", .str spec.name), ("argnames", .texts spec.params), ("project", .str spec.project)]

end HookSpec

/-- The specifications that a host offers together. -/
structure SpecContainer where
  /-- How messages call the container. -/
  description : String
  /-- Its specifications. -/
  specs : List HookSpec

/-- Hook specifications, one for a hook. -/
structure SpecTable where
  /-- The specifications by hook. -/
  table : List (String × HookSpec) := []
  /-- The specified hooks in the order in which they were added. -/
  order : List String := []
  deriving Repr, DecidableEq

namespace SpecTable

/-- The specification of a hook. -/
def get? (t : SpecTable) (hook : String) : Option HookSpec := Keyed.get? hook t.table

/-- Whether a hook is specified. -/
def contains (t : SpecTable) (hook : String) : Bool := (t.get? hook).isSome

/-- The names of the specified hooks, in order. -/
def names (t : SpecTable) : List String := t.order

/-- The specifications in the order in which they were added. -/
def specs (t : SpecTable) : List HookSpec := t.order.filterMap t.get?

/-- Stores a specification, and its hook as the last one. -/
def store (t : SpecTable) (spec : HookSpec) : SpecTable :=
  ⟨Keyed.put spec.name spec t.table, t.order ++ [spec.name]⟩

/-- Whether a specification is new; an error if it contradicts the one that is there. -/
def check (t : SpecTable) (spec : HookSpec) : Except PluginError Bool :=
  match t.get? spec.name with
  | none => .ok true
  | some existing =>
    if existing.params = spec.params then .ok false
    else .error (.specConflict spec.name existing.params spec.params)

/-- Adds a specification, unless it is there already. -/
def add (t : SpecTable) (spec : HookSpec) : Step SpecTable (Except PluginError Unit) :=
  match t.check spec with
  | .error e => { result := .error e, state := t }
  | .ok false => { result := .ok (), state := t }
  | .ok true =>
    { result := .ok ()
      events := [.debug "Hook specification added"
        [("hook", .text spec.name), ("args", .text (Text.quoteList spec.params))]]
      state := t.store spec }

/-- Adds specifications one after another, up to the first that is refused. -/
def addAll (t : SpecTable) : List HookSpec → Step SpecTable (Except PluginError Unit)
  | [] => { result := .ok (), state := t }
  | spec :: rest =>
    let s := t.add spec
    match s.result with
    | .error e => { s with result := .error e }
    | .ok _ => (addAll s.state rest).after s.events

/-- A specification that is stored is found. -/
theorem get?_store_self (t : SpecTable) (spec : HookSpec) :
    (t.store spec).get? spec.name = some spec :=
  Keyed.get?_put_self spec.name spec t.table

/-- To store one changes no other hook. -/
theorem get?_store_of_ne {hook : String} {spec : HookSpec} (h : hook ≠ spec.name) (t : SpecTable) :
    (t.store spec).get? hook = t.get? hook :=
  Keyed.get?_put_of_ne h spec t.table

/-- A specification is stored if its hook has none. Otherwise the table stays as it is, and that is
    an error if the hook has other parameters. -/
theorem add_cases (t : SpecTable) (spec : HookSpec) :
    (t.get? spec.name = none ∧ (t.add spec).result = .ok () ∧
        (t.add spec).state = t.store spec) ∨
      ∃ existing, t.get? spec.name = some existing ∧ (t.add spec).state = t ∧
        (existing.params = spec.params ∧ (t.add spec).result = .ok () ∨
          existing.params ≠ spec.params ∧ (t.add spec).result =
            .error (.specConflict spec.name existing.params spec.params)) := by
  cases hget : t.get? spec.name with
  | none => exact .inl (by simp [add, check, hget])
  | some existing =>
    -- the hook is known: nothing is stored, and the parameters decide about the error
    refine .inr ⟨existing, rfl, ?_⟩
    by_cases hparams : existing.params = spec.params
    · simp [add, check, hget, hparams]
    · simp [add, check, hget, hparams]

/-- A hook that was specified keeps its specification. -/
theorem get?_add {t : SpecTable} {hook : String} {s : HookSpec} (h : t.get? hook = some s)
    (spec : HookSpec) : (t.add spec).state.get? hook = some s := by
  rcases t.add_cases spec with ⟨hnone, -, hstate⟩ | ⟨_, -, hstate, -⟩
  · -- what is stored is for another hook
    have hne : hook ≠ spec.name := by
      rintro rfl
      rw [hnone] at h
      cases h
    rw [hstate, get?_store_of_ne hne, h]
  · rw [hstate, h]

end SpecTable

end Plugboard
