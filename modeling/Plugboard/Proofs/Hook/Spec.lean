import Mathlib.Data.List.Infix
import Mathlib.Data.List.Nodup
import Plugboard.Hook.Spec

/-!
# The table of specifications

A table keeps its specifications twice over: by hook, and as an order of hooks. It is well formed if
the two say the same, each hook once and under its own name. What it lists is then what it finds
(`WellFormed.get?_eq_some_iff`), and a specification that is stored comes last in the list
(`WellFormed.specs_store`), so that adding only extends the list (`WellFormed.specs_prefix_addAll`).

Many specifications are added one after another, up to the first that is refused. Whether one of
them is refused can be told beforehand: each must suit the table, and any two of them must suit each
other (`addAll_eq_ok_iff`). The first alone is not enough, and where only the second is amiss part
of the specifications is stored before the addition fails (`exists_stored_of_addAll_error`).
-/

namespace Plugboard

/-- Two specifications do not give one hook different parameters. -/
def HookSpec.Compatible (a b : HookSpec) : Prop := a.name = b.name → a.params = b.params

namespace SpecTable

/-- The table and the order say the same. -/
structure WellFormed (t : SpecTable) : Prop where
  /-- A hook is listed once. -/
  nodup_order : t.order.Nodup
  /-- The hooks that are listed are the specified ones. -/
  mem_order_iff : ∀ hook, hook ∈ t.order ↔ ∃ spec, t.get? hook = some spec
  /-- A specification is found under the name of its hook. -/
  name_eq : ∀ {hook spec}, t.get? hook = some spec → spec.name = hook

/-- The empty table is well formed. -/
theorem wellFormed_empty : WellFormed {} :=
  ⟨List.nodup_nil, by simp [get?], fun h => nomatch h⟩

/-- A specification that is stored comes last in the order. -/
theorem order_store (t : SpecTable) (spec : HookSpec) :
    (t.store spec).order = t.order ++ [spec.name] := rfl

namespace WellFormed

variable {t : SpecTable} (h : t.WellFormed)
include h

/-- A specification is listed exactly if it is the one that is found for its hook. -/
theorem mem_specs_iff {spec : HookSpec} : spec ∈ t.specs ↔ t.get? spec.name = some spec := by
  rw [specs, List.mem_filterMap]
  constructor
  · rintro ⟨hook, -, hget⟩
    rw [h.name_eq hget]
    exact hget
  · intro hget
    exact ⟨spec.name, (h.mem_order_iff spec.name).2 ⟨spec, hget⟩, hget⟩

/-- A look-up finds what is listed, and nothing else. -/
theorem get?_eq_some_iff {hook : String} {spec : HookSpec} :
    t.get? hook = some spec ↔ spec ∈ t.specs ∧ spec.name = hook := by
  rw [h.mem_specs_iff]
  constructor
  · intro hget
    have hname := h.name_eq hget
    rw [hname]
    exact ⟨hget, rfl⟩
  · rintro ⟨hget, rfl⟩
    exact hget

/-- The hooks of the listed specifications are the order. -/
theorem map_name_specs : t.specs.map (·.name) = t.order := by
  have hfound : ∀ hook ∈ t.order, (t.get? hook).map (·.name) = some hook := by
    intro hook hmem
    obtain ⟨spec, hget⟩ := (h.mem_order_iff hook).1 hmem
    rw [hget, Option.map_some, h.name_eq hget]
  rw [specs, List.map_filterMap, List.filterMap_congr hfound, List.filterMap_some]

/-- A hook that has no specification is not in the order. -/
theorem not_mem_order {hook : String} (hnew : t.get? hook = none) : hook ∉ t.order := by
  rw [h.mem_order_iff, hnew]
  exact fun hspec => hspec.elim nofun

/-- A new specification comes last. -/
theorem specs_store {spec : HookSpec} (hnew : t.get? spec.name = none) :
    (t.store spec).specs = t.specs ++ [spec] := by
  have hold : t.order.filterMap (t.store spec).get? = t.specs := by
    refine List.filterMap_congr fun hook hmem => get?_store_of_ne ?_ t
    -- the new hook is not listed yet
    rintro rfl
    exact h.not_mem_order hnew hmem
  rw [specs, order_store, List.filterMap_append, hold]
  simp [get?_store_self]

/-- To store a specification of a new hook keeps a table well formed. -/
theorem store {spec : HookSpec} (hnew : t.get? spec.name = none) : (t.store spec).WellFormed where
  nodup_order := by
    rw [order_store, ← List.concat_eq_append]
    exact h.nodup_order.concat (h.not_mem_order hnew)
  mem_order_iff := by
    intro hook
    rw [order_store, List.mem_append, List.mem_singleton, h.mem_order_iff hook]
    -- the new hook is found in both places, and the others are where they were
    by_cases hname : hook = spec.name
    · simp [hname, get?_store_self]
    · simp [hname, get?_store_of_ne hname]
  name_eq := by
    intro hook found hget
    by_cases hname : hook = spec.name
    · rw [hname, get?_store_self] at hget
      rw [hname, ← Option.some.inj hget]
    · rw [get?_store_of_ne hname] at hget
      exact h.name_eq hget

/-- To add a specification keeps a table well formed, be it refused or not. -/
theorem add (spec : HookSpec) : (t.add spec).state.WellFormed := by
  rcases t.add_cases spec with ⟨hnew, -, hstate⟩ | ⟨_, -, hstate, -⟩
  · rw [hstate]
    exact h.store hnew
  · rw [hstate]
    exact h

/-- To add a specification extends the list by it, or leaves it alone. -/
theorem specs_prefix_add (spec : HookSpec) : t.specs <+: (t.add spec).state.specs := by
  rcases t.add_cases spec with ⟨hnew, -, hstate⟩ | ⟨_, -, hstate, -⟩
  · rw [hstate, h.specs_store hnew]
    exact List.prefix_append t.specs [spec]
  · rw [hstate]

end WellFormed

/-! ## Adding many -/

/-- After a specification that was accepted the others are added. -/
theorem addAll_cons_of_ok {t : SpecTable} {spec : HookSpec} (h : (t.add spec).result = .ok ())
    (rest : List HookSpec) :
    t.addAll (spec :: rest) = ((t.add spec).state.addAll rest).after (t.add spec).events := by
  simp only [addAll, h]

/-- What adding one specification keeps, adding many keeps, wherever it stops. -/
theorem addAll_induction {P : SpecTable → Prop} (hadd : ∀ t spec, P t → P (t.add spec).state)
    {t : SpecTable} (h : P t) (specs : List HookSpec) : P (t.addAll specs).state := by
  -- an error ends the additions with the table that the refused one left
  induction specs generalizing t with
  | nil => exact h
  | cons spec rest ih =>
    simp only [addAll]
    split
    · exact hadd t spec h
    · exact ih (hadd t spec h)

/-- A hook that was specified keeps its specification. -/
theorem get?_addAll {t : SpecTable} {hook : String} {found : HookSpec}
    (h : t.get? hook = some found) (specs : List HookSpec) :
    (t.addAll specs).state.get? hook = some found :=
  addAll_induction (P := fun t => t.get? hook = some found) (fun _ spec h => get?_add h spec) h
    specs

/-- To add many keeps a table well formed, wherever it stops. -/
theorem WellFormed.addAll {t : SpecTable} (h : t.WellFormed) (specs : List HookSpec) :
    (t.addAll specs).state.WellFormed :=
  addAll_induction (fun _ spec h => h.add spec) h specs

/-- Be all of them stored or only some, the specifications that were there stay in front. -/
theorem WellFormed.specs_prefix_addAll {t : SpecTable} (h : t.WellFormed)
    (specs : List HookSpec) : t.specs <+: (t.addAll specs).state.specs := by
  -- only a well-formed table is extended by what is added to it
  have hboth : (t.addAll specs).state.WellFormed ∧ t.specs <+: (t.addAll specs).state.specs :=
    addAll_induction (P := fun next => next.WellFormed ∧ t.specs <+: next.specs)
      (fun next spec hnext => ⟨hnext.1.add spec, hnext.2.trans (hnext.1.specs_prefix_add spec)⟩)
      ⟨h, List.prefix_refl t.specs⟩ specs
  exact hboth.2

/-- What is found after adding a specification was there before or is the one that was added. -/
theorem get?_of_add {t : SpecTable} {hook : String} {spec found : HookSpec}
    (h : (t.add spec).state.get? hook = some found) :
    t.get? hook = some found ∨ found = spec ∧ spec.name = hook := by
  rcases t.add_cases spec with ⟨-, -, hstate⟩ | ⟨_, -, hstate, -⟩
  · rw [hstate] at h
    -- it was stored just now, or belongs to another hook
    by_cases hname : hook = spec.name
    · subst hname
      rw [get?_store_self] at h
      exact .inr ⟨(Option.some.inj h).symm, rfl⟩
    · rw [get?_store_of_ne hname] at h
      exact .inl h
  · rw [hstate] at h
    exact .inl h

/-- The same for many specifications, wherever adding them stops. -/
theorem get?_of_addAll {t : SpecTable} {hook : String} {specs : List HookSpec} {found : HookSpec}
    (h : (t.addAll specs).state.get? hook = some found) :
    t.get? hook = some found ∨ found ∈ specs ∧ found.name = hook := by
  induction specs generalizing t with
  | nil => exact .inl h
  | cons spec rest ih =>
    -- the first addition, and what the others make of its outcome
    have hfirst : (t.add spec).state.get? hook = some found →
        t.get? hook = some found ∨ found ∈ spec :: rest ∧ found.name = hook := by
      intro hadd
      rcases get?_of_add hadd with hold | ⟨rfl, hname⟩
      · exact .inl hold
      · exact .inr ⟨List.mem_cons_self, hname⟩
    simp only [addAll] at h
    split at h
    · exact hfirst h
    · rcases ih h with hadd | ⟨hrest, hname⟩
      · exact hfirst hadd
      · exact .inr ⟨List.mem_cons_of_mem spec hrest, hname⟩

/-! ## When adding succeeds -/

/-- A hook has no specification yet or one with the same parameters. -/
def Accepts (t : SpecTable) (spec : HookSpec) : Prop :=
  ∀ existing, t.get? spec.name = some existing → existing.params = spec.params

/-- A specification is accepted if it is new or says what is known already. -/
theorem add_eq_ok_iff (t : SpecTable) (spec : HookSpec) :
    (t.add spec).result = .ok () ↔ t.Accepts spec := by
  rcases t.add_cases spec with
    ⟨hnew, hresult, -⟩ | ⟨existing, hget, -, ⟨hparams, hresult⟩ | ⟨hparams, hresult⟩⟩
  · simp [Accepts, hnew, hresult]
  · simp [Accepts, hget, hparams, hresult]
  · simp [Accepts, hget, hparams, hresult]

/-- After a specification was accepted, what is accepted must suit it, too. -/
theorem accepts_add_iff {t : SpecTable} {spec : HookSpec} (h : t.Accepts spec)
    (other : HookSpec) :
    (t.add spec).state.Accepts other ↔ t.Accepts other ∧ spec.Compatible other := by
  rcases t.add_cases spec with ⟨hnew, -, hstate⟩ | ⟨existing, hget, hstate, -⟩
  · rw [hstate]
    by_cases hname : other.name = spec.name
    · simp [Accepts, HookSpec.Compatible, hname, hnew, get?_store_self]
    · simp [Accepts, HookSpec.Compatible, Ne.symm hname, get?_store_of_ne hname]
  · -- the table stays; where the hooks are the same, so are the parameters
    rw [hstate, iff_self_and]
    intro hother hname
    rw [← h existing hget]
    exact hother existing (hname ▸ hget)

/-- Specifications are added without an error if the table accepts each of them and any two of them
    are compatible. -/
theorem addAll_eq_ok_iff (t : SpecTable) (specs : List HookSpec) :
    (t.addAll specs).result = .ok () ↔
      (∀ spec ∈ specs, t.Accepts spec) ∧ specs.Pairwise HookSpec.Compatible := by
  induction specs generalizing t with
  | nil => simp [addAll]
  | cons spec rest ih =>
    by_cases haccepts : t.Accepts spec
    · -- the rest meets a table that holds the first
      have hrest : (t.addAll (spec :: rest)).result = ((t.add spec).state.addAll rest).result := by
        rw [addAll_cons_of_ok ((t.add_eq_ok_iff spec).2 haccepts)]
        rfl
      rw [hrest, ih, List.forall_mem_cons, List.pairwise_cons]
      simp only [accepts_add_iff haccepts, haccepts, true_and, forall_and, and_assoc]
    · have hfails : (t.addAll (spec :: rest)).result ≠ .ok () := by
        rw [← add_eq_ok_iff] at haccepts
        simp only [addAll]
        split
        · simp
        · rename_i hok
          exact absurd hok haccepts
      refine iff_of_false hfails ?_
      rintro ⟨hall, -⟩
      exact haccepts (hall spec List.mem_cons_self)

/-- After an addition without an error every specification is there, with its parameters. -/
theorem get?_addAll_of_ok {t : SpecTable} {specs : List HookSpec}
    (h : (t.addAll specs).result = .ok ()) {spec : HookSpec} (hmem : spec ∈ specs) :
    ∃ found, (t.addAll specs).state.get? spec.name = some found ∧ found.params = spec.params := by
  induction specs generalizing t with
  | nil => cases hmem
  | cons first rest ih =>
    have haccepts : t.Accepts first :=
      ((t.addAll_eq_ok_iff _).1 h).1 first List.mem_cons_self
    rw [addAll_cons_of_ok ((t.add_eq_ok_iff first).2 haccepts)] at h ⊢
    rcases List.mem_cons.1 hmem with rfl | hrest
    · -- the first is there after its own addition, and stays
      rcases t.add_cases spec with ⟨-, -, hstate⟩ | ⟨existing, hget, hstate, -⟩
      · refine ⟨spec, get?_addAll ?_ rest, rfl⟩
        rw [hstate, get?_store_self]
      · refine ⟨existing, get?_addAll ?_ rest, haccepts existing hget⟩
        rw [hstate, hget]
    · exact ih h hrest

/-- If the table accepts each specification and adding them fails nevertheless, then it fails half
    way: a hook that had no specification has one. -/
theorem exists_stored_of_addAll_error {t : SpecTable} {specs : List HookSpec}
    (haccepts : ∀ spec ∈ specs, t.Accepts spec) {e : PluginError}
    (h : (t.addAll specs).result = .error e) :
    ∃ spec ∈ specs, t.get? spec.name = none ∧
      (t.addAll specs).state.get? spec.name = some spec := by
  induction specs with
  | nil => cases h
  | cons first rest ih =>
    rw [List.forall_mem_cons] at haccepts
    rw [addAll_cons_of_ok ((t.add_eq_ok_iff first).2 haccepts.1)] at h ⊢
    rcases t.add_cases first with ⟨hnew, -, hstate⟩ | ⟨_, -, hstate, -⟩
    · -- what is new is stored before anything can fail
      refine ⟨first, List.mem_cons_self, hnew, get?_addAll ?_ rest⟩
      rw [hstate, get?_store_self]
    · -- what is not new leaves the table to the rest
      rw [hstate] at h ⊢
      obtain ⟨spec, hmem, hstored⟩ := ih haccepts.2 h
      exact ⟨spec, List.mem_cons_of_mem first hmem, hstored⟩

end SpecTable

end Plugboard
