import Plugboard.Config.Tree

/-!
# Trees that agree but for one field

A path begins at a table (`exists_stepsOf`), so a tree stays a table whatever is laid over it
(`exists_addLayer`).

`GivenAt` relates the fields of two tables that agree everywhere but in one field of an inner table,
where the second has a given value. Laying that value over a table leads there (`givenAt_place`),
and what leads apart from the field (`Apart`) may be laid over both (`GivenAt.addLayer`).
-/

namespace Plugboard.Config

/-! ## Paths -/

/-- A path begins at a key. -/
theorem exists_stepsOf (path : String) : ∃ key rest, stepsOf path = .field key :: rest := by
  simp only [stepsOf]
  split
  · split
    · exact ⟨_, _, rfl⟩
    · exact ⟨_, _, rfl⟩
  · exact ⟨_, _, rfl⟩

/-- Two paths go on to different keys where they part. -/
def Apart : List PathStep → List PathStep → Prop
  | .field key :: rest, .field key' :: rest' => key ≠ key' ∨ Apart rest rest'
  | _, _ => False

instance decidableApart : (steps steps' : List PathStep) → Decidable (Apart steps steps')
  | .field key :: rest, .field key' :: rest' =>
    have := decidableApart rest rest'
    inferInstanceAs (Decidable (key ≠ key' ∨ Apart rest rest'))
  | [], _ | .item _ :: _, _ | .field _ :: _, [] | .field _ :: _, .item _ :: _ =>
    inferInstanceAs (Decidable False)

/-- A path is not apart from itself. -/
theorem not_apart_self (steps : List PathStep) : ¬Apart steps steps := by
  induction steps with
  | nil => exact id
  | cons step rest ih =>
    cases step with
    | field key => exact not_or_intro (fun h => h rfl) ih
    | item index => exact id

/-! ## Laying values over a table -/

/-- A value that is no table takes the place of what was there. -/
theorem overlay_of_ne_obj {v : Json} (h : ∀ fields, v ≠ .obj fields) (old : Json) :
    overlay old v = v := by
  cases v with
  | obj fields => exact absurd rfl (h fields)
  | _ => rw [overlay]; exact h

/-- To lay two layers over a tree is to lay one and then the other. -/
theorem addLayer_append (tree : Json) (layer layer' : List (String × Json)) :
    addLayer tree (layer ++ layer') = addLayer (addLayer tree layer) layer' := List.foldl_append

/-- The first entry of a layer is laid first. -/
theorem addLayer_cons (tree : Json) (path : String) (v : Json) (layer : List (String × Json)) :
    addLayer tree ((path, v) :: layer) = addLayer (place tree path v) layer := rfl

/-- A table stays a table whatever is laid over it. -/
theorem exists_addLayer (layer : List (String × Json)) (fields : List (String × Json)) :
    ∃ out, addLayer (.obj fields) layer = .obj out := by
  induction layer generalizing fields with
  | nil => exact ⟨fields, rfl⟩
  | cons given rest ih =>
    obtain ⟨path, v⟩ := given
    obtain ⟨key, steps, hsteps⟩ := exists_stepsOf path
    rw [addLayer_cons, place, hsteps, changeAt]
    exact ih _

/-! ## One field that differs -/

variable {table key : String} {v w : Json} {fields fields' : List (String × Json)}

/-- Fields that are those of another table but for a key that is given a value. -/
structure Given (key : String) (v : Json) (fields fields' : List (String × Json)) : Prop where
  self : Keyed.get? key fields' = some v
  others : ∀ k, k ≠ key → Keyed.get? k fields' = Keyed.get? k fields

/-- To put a value gives it to its key and leaves the other fields alone. -/
theorem given_put (key : String) (v : Json) (fields : List (String × Json)) :
    Given key v fields (Keyed.put key v fields) :=
  ⟨Keyed.get?_put_self key v fields, fun _ hk => Keyed.get?_put_of_ne hk v fields⟩

/-- What another key is given does not matter. -/
theorem Given.put {k : String} {a : Json} (h : Given key v fields fields') (hk : k ≠ key) :
    Given key v (Keyed.put k a fields) (Keyed.put k a fields') := by
  constructor
  · rw [Keyed.get?_put_of_ne hk.symm]
    exact h.self
  · intro j hj
    by_cases hjk : j = k
    · rw [hjk, Keyed.get?_put_self, Keyed.get?_put_self]
    · rw [Keyed.get?_put_of_ne hjk, Keyed.get?_put_of_ne hjk]
      exact h.others j hj

/-- What the key itself is given counts in the second table. -/
theorem Given.put_self (h : Given key v fields fields') (a w : Json) :
    Given key w (Keyed.put key a fields) (Keyed.put key w fields') := by
  refine ⟨Keyed.get?_put_self key w fields', fun k hk => ?_⟩
  rw [Keyed.get?_put_of_ne hk, Keyed.get?_put_of_ne hk]
  exact h.others k hk

/-- Given one value and given another, fields differ in nothing else. -/
theorem Given.swap {fields'' : List (String × Json)} (h : Given key w fields fields'')
    (h' : Given key v fields fields') : Given key v fields'' fields' :=
  ⟨h'.self, fun k hk => (h'.others k hk).trans (h.others k hk).symm⟩

/-- The fields of the inner table under a key. -/
def inner (table : String) (fields : List (String × Json)) : List (String × Json) :=
  fieldsOf ((Keyed.get? table fields).getD .null)

/-- Fields that are those of another table but for a field of an inner table that is given a
    value. -/
def GivenAt (table key : String) (v : Json) (fields fields' : List (String × Json)) : Prop :=
  ∃ into, Given key v (inner table fields) into ∧ Given table (.obj into) fields fields'

/-- Fields given two values agree with each other but for the place of these. -/
theorem GivenAt.swap {fields'' : List (String × Json)} (h : GivenAt table key w fields fields'')
    (h' : GivenAt table key v fields fields') : GivenAt table key v fields'' fields' := by
  obtain ⟨into, hinto, hfields⟩ := h
  obtain ⟨into', hinto', hfields'⟩ := h'
  refine ⟨into', ?_, hfields.swap hfields'⟩
  rw [inner, hfields.self]
  exact hinto.swap hinto'

/-- A change below a key changes what is there and puts it back. -/
theorem changeAt_field (f : Json → Json) (k : String) (rest : List PathStep)
    (fields : List (String × Json)) :
    changeAt f (.field k :: rest) (.obj fields) =
      .obj (Keyed.put k (changeAt f rest ((Keyed.get? k fields).getD .null)) fields) := rfl

/-- A change behind a key of an inner table is a change of that key. -/
theorem changeAt_field_field (f : Json → Json) (table k : String) (rest : List PathStep)
    (fields : List (String × Json)) :
    changeAt f (.field table :: .field k :: rest) (.obj fields) =
      .obj (Keyed.put table (.obj (Keyed.put k
        (changeAt f rest ((Keyed.get? k (inner table fields)).getD .null)) (inner table fields)))
        fields) := rfl

/-- To set a field of an inner table gives it the value and leaves all else alone. -/
theorem givenAt_place {path : String} (hsteps : stepsOf path = [.field table, .field key])
    (hv : ∀ fields, v ≠ .obj fields) (fields : List (String × Json)) :
    ∃ out, place (.obj fields) path v = .obj out ∧ GivenAt table key v fields out := by
  rw [place, hsteps, changeAt_field_field, changeAt, overlay_of_ne_obj hv]
  exact ⟨_, rfl, _, given_put key v _, given_put table _ fields⟩

/-- A change that leads apart from the field may be made in both tables. -/
theorem GivenAt.changeAt {steps : List PathStep} (h : GivenAt table key v fields fields')
    (hapart : Apart [.field table, .field key] steps) (f : Json → Json) :
    ∃ out out', changeAt f steps (.obj fields) = .obj out ∧
      changeAt f steps (.obj fields') = .obj out' ∧ GivenAt table key v out out' := by
  obtain ⟨into, hinto, hfields⟩ := h
  match steps, hapart with
  | .field k :: rest, hapart =>
    by_cases hk : k = table
    · -- in the same inner table, so at another key of it
      subst hk
      match rest, hapart.resolve_left (fun h => h rfl) with
      | .field k' :: rest, hapart =>
        have hk' : k' ≠ key := fun h => hapart.elim (fun hne => hne h.symm) id
        have hinto' : inner k fields' = into := by
          rw [inner, hfields.self]
          rfl
        refine ⟨_, _, changeAt_field_field f k k' rest fields,
          changeAt_field_field f k k' rest fields', _, ?_, hfields.put_self _ _⟩
        rw [hinto', hinto.others k' hk', inner, Keyed.get?_put_self]
        exact hinto.put hk'
    · refine ⟨_, _, changeAt_field f k rest fields, changeAt_field f k rest fields', into, ?_, ?_⟩
      · rw [inner, Keyed.get?_put_of_ne (Ne.symm hk)]
        exact hinto
      · rw [hfields.others k hk]
        exact hfields.put hk

/-- What leads apart from the field may be laid over both tables. -/
theorem GivenAt.addLayer {layer : List (String × Json)} (h : GivenAt table key v fields fields')
    (hapart : ∀ given ∈ layer, Apart [.field table, .field key] (stepsOf given.1)) :
    ∃ out out', addLayer (.obj fields) layer = .obj out ∧
      addLayer (.obj fields') layer = .obj out' ∧ GivenAt table key v out out' := by
  induction layer generalizing fields fields' with
  | nil => exact ⟨fields, fields', rfl, rfl, h⟩
  | cons given rest ih =>
    obtain ⟨path, w⟩ := given
    obtain ⟨hpath, hrest⟩ := List.forall_mem_cons.1 hapart
    obtain ⟨out, out', hout, hout', hgiven⟩ := h.changeAt hpath (overlay · w)
    rw [addLayer_cons, addLayer_cons, place, place, hout, hout']
    exact ih hgiven hrest

end Plugboard.Config
