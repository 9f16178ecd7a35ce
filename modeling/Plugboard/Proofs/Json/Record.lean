import Mathlib.Data.List.Forall2
import Mathlib.Data.List.Induction
import Mathlib.Data.List.Nodup
import Plugboard.Json.Decode
import Plugboard.Keyed

/-!
# Values that stand for records

A record may be given as an object that has its fields in any order, among others that it does not
have, or as the array of what its fields hold, in order of declaration (`Record`). What the object
says of a field is what the record says of it (`Among.lookup_eq`).
-/

namespace Plugboard.Json

/-! ## Fields among others -/

/-- Fields are those of a record, in any order, among others whose names it does not know. -/
def Among (known : List String) (own fields : List (String × Json)) : Prop :=
  (fields.filter fun p => p.1 ∈ known).Perm own

variable {known : List String} {own fields : List (String × Json)} {name : String}

/-- Fields that are all known are among themselves. -/
theorem among_self (h : ∀ p ∈ own, p.1 ∈ known) : Among known own own := by
  rw [Among, List.filter_eq_self.2 (by simpa using h)]

/-- A field of a known name is not found among the others. -/
theorem lookup_filter (hname : name ∈ known) (fields : List (String × Json)) :
    (fields.filter fun p => p.1 ∈ known).lookup name = fields.lookup name := by
  induction fields with
  | nil => rfl
  | cons p rest ih =>
    obtain ⟨n, v⟩ := p
    rw [List.filter_cons]
    split
    · rw [List.lookup_cons, List.lookup_cons, ih]
    · rename_i hn
      have hne : name ≠ n := fun h => hn (by simpa using h ▸ hname)
      rw [ih, List.lookup_cons, beq_false_of_ne hne]

/-- Under a name that the record knows stands what the record has there. -/
theorem Among.lookup_eq (h : Among known own fields) (hnodup : (own.map (·.1)).Nodup)
    (hname : name ∈ known) : fields.lookup name = own.lookup name := by
  rw [← lookup_filter hname, Keyed.lookup_eq_get?, Keyed.lookup_eq_get?]
  ext v
  rw [Keyed.get?_eq_some_iff ((h.map _).nodup_iff.2 hnodup), Keyed.get?_eq_some_iff hnodup]
  exact h.mem_iff

/-! ## Fields in order -/

/-- A field that is new is only added, wherever it comes to stand. -/
theorem insertField_perm {v : Json} (h : name ∉ fields.map (·.1)) :
    (insertField name v fields).Perm ((name, v) :: fields) := by
  induction fields with
  | nil => exact .rfl
  | cons p rest ih =>
    obtain ⟨n, w⟩ := p
    rw [List.map_cons, List.mem_cons, not_or] at h
    rw [insertField, if_neg (Ne.symm h.1)]
    split
    · exact .rfl
    · exact ((ih h.2).cons _).trans (.swap _ _ _)

/-- Fields of different names are only put in order. -/
theorem sortFields_perm (h : (fields.map (·.1)).Nodup) : (sortFields fields).Perm fields := by
  -- the last field is put in last, among the others in order
  induction fields using List.reverseRecOn with
  | nil => exact .rfl
  | append_singleton fields p ih =>
    obtain ⟨name, v⟩ := p
    have hperm : (fields ++ [(name, v)]).Perm ((name, v) :: fields) :=
      List.perm_append_singleton _ _
    rw [(hperm.map _).nodup_iff, List.map_cons, List.nodup_cons] at h
    have hsorted := ih h.2
    have hname : name ∉ (sortFields fields).map (·.1) := by
      rw [(hsorted.map _).mem_iff]
      exact h.1
    rw [sortFields, List.foldl_append]
    exact (insertField_perm hname).trans ((hsorted.cons _).trans hperm.symm)

/-- Fields that are sorted are still the same ones. -/
theorem among_sortFields (hnodup : (own.map (·.1)).Nodup) (h : ∀ p ∈ own, p.1 ∈ known) :
    Among known own (sortFields own) :=
  ((sortFields_perm hnodup).filter _).trans (among_self h)

/-! ## Records -/

/-- A value stands for a record with these fields. -/
inductive Record (own : List (String × Json)) : Json → Prop where
  /-- An object has the fields, among others. -/
  | object {fields : List (String × Json)} (h : Among (own.map (·.1)) own fields) :
    Record own (.obj fields)
  /-- An array has what the fields hold. -/
  | array : Record own (.arr (own.map (·.2)))

/-- A record stands for itself, as an object in order of declaration. -/
theorem record_self (own : List (String × Json)) : Record own (.obj own) :=
  .object (among_self fun _ hp => List.mem_map_of_mem hp)

/-- So does the object of its fields, whatever their order. -/
theorem record_object (h : (own.map (·.1)).Nodup) : Record own (object own) :=
  .object (among_sortFields h fun _ hp => List.mem_map_of_mem hp)

/-! ## Decoding -/

variable {α : Type} {decode : Json → Decoded α}

/-- A field that is there is decoded. -/
theorem field?_eq_ok {v : Json} {a : α} (h : fields.lookup name = some v) (hv : decode v = .ok a) :
    field? fields name decode = .ok (some a) := by
  rw [field?, h]
  simp [hv, Except.map]

/-- A field of a record is decoded from what the record has there. -/
theorem Among.field?_eq (h : Among (own.map (·.1)) own fields) (hnodup : (own.map (·.1)).Nodup)
    {v : Json} (hmem : (name, v) ∈ own) {a : α} (hv : decode v = .ok a) :
    field? fields name decode = .ok (some a) := by
  apply field?_eq_ok _ hv
  rw [h.lookup_eq hnodup (List.mem_map_of_mem hmem), Keyed.lookup_eq_get?,
    Keyed.get?_eq_some_iff hnodup]
  exact hmem

/-- A field that holds a text is read from among the others. -/
theorem Among.field?_asText (h : Among (own.map (·.1)) own fields) (hnodup : (own.map (·.1)).Nodup)
    {s : String} (hmem : (name, .str s) ∈ own) : field? fields name asText = .ok (some s) :=
  h.field?_eq hnodup hmem rfl

/-- A field that is not there is none. -/
theorem field?_eq_ok_none (h : fields.lookup name = none) :
    field? fields name decode = .ok none := by
  rw [field?, h]

/-- Where only some fields of a record are kept, the others are not there. -/
theorem Among.field?_kept {ι : Type} {names : List ι} {key : ι → String} {encode : ι → Json}
    {kept : ι → Bool}
    (h : Among (names.map key) ((names.filter kept).map fun i => (key i, encode i)) fields)
    (hnodup : (names.map key).Nodup) {i : ι} (hi : i ∈ names) {a : α}
    (ha : decode (encode i) = .ok a) :
    field? fields (key i) decode = .ok (if kept i then some a else none) := by
  have hown : (((names.filter kept).map fun i => (key i, encode i)).map (·.1)).Nodup := by
    rw [List.map_map]
    exact hnodup.sublist (List.filter_sublist.map key)
  have hlookup := h.lookup_eq hown (List.mem_map_of_mem hi)
  -- a field that was kept is the only one with its key, and one that was not has no key left
  cases hkept : kept i with
  | true =>
    refine field?_eq_ok ?_ ha
    rw [hlookup, Keyed.lookup_eq_get?, Keyed.get?_eq_some_iff hown]
    exact List.mem_map.2 ⟨i, List.mem_filter.2 ⟨hi, hkept⟩, rfl⟩
  | false =>
    refine field?_eq_ok_none ?_
    rw [hlookup, Keyed.lookup_eq_get?, Keyed.get?_eq_none_iff, Keyed.keys, List.map_map]
    intro hmem
    obtain ⟨j, hj, hkey⟩ := List.mem_map.1 hmem
    obtain ⟨hj, hkeptj⟩ := List.mem_filter.1 hj
    rw [List.inj_on_of_nodup_map hnodup hj hi hkey, hkept] at hkeptj
    exact Bool.false_ne_true hkeptj

/-- A list is decoded if each of its items is. -/
theorem asList_eq_ok {as : List α} {items : List Json}
    (h : List.Forall₂ (fun a v => decode v = .ok a) as items) :
    asList decode (.arr items) = .ok as := by
  show items.mapM decode = .ok as
  induction h with
  | nil => rfl
  | cons hv _ ih =>
    rw [List.mapM_cons, hv, ih]
    rfl

/-- A list is decoded from the encoded items. -/
theorem asList_map (decode : Json → Decoded α) {encode : α → Json}
    (h : ∀ a, decode (encode a) = .ok a) (as : List α) :
    asList decode (.arr (as.map encode)) = .ok as :=
  asList_eq_ok (List.forall₂_map_right_iff.2 (List.forall₂_same.2 fun a _ => h a))

/-- A list of texts is read back. -/
theorem asList_texts (names : List String) : asList asText (.texts names) = .ok names :=
  asList_map asText (fun _ => rfl) names

end Plugboard.Json
