import Mathlib.Data.List.Forall2
import Plugboard.Proofs.Config.Sections

/-!
# Layers in another order

A table has no order of its own, so the entries of a layer may be laid over a tree in any order, and
so may the fields of a table be that an entry lays over another (`Reordered`). For a `Definite`
layer the order does not tell: in any other it is `Definite` too, and gives every setting the same
value (`Reordered.definite`, `Reordered.given?_eq`).
-/

namespace Plugboard.Config

/-- A value, or a table with its fields in another order. -/
inductive Shuffled : Json → Json → Prop
  | refl (v : Json) : Shuffled v v
  | fields {own own' : List (String × Json)} (h : own.Perm own') : Shuffled (.obj own) (.obj own')

/-- A layer with its entries in another order, and the fields of their tables. -/
def Reordered (layer layer' : List (String × Json)) : Prop :=
  ∃ entries, List.Forall₂ (fun entry entry' => entry.1 = entry'.1 ∧ Shuffled entry.2 entry'.2)
    layer entries ∧ entries.Perm layer'

/-- The order in which a layer is written is one of its orders. -/
theorem Reordered.refl (layer : List (String × Json)) : Reordered layer layer :=
  ⟨layer, List.forall₂_same.2 fun entry _ => ⟨rfl, .refl entry.2⟩, .rfl⟩

variable {steps : List PathStep} {v w : Json} {layer layer' : List (String × Json)}

/-- No setting stands where a table can be read. -/
theorem Readable.of_obj {table key : String} {own : List (String × Json)}
    (h : Readable table key (.obj own)) (w : Json) : Readable table key w := by
  intro n hn htable hkey
  exact absurd rfl (SettingName.ne_obj_of_read? (h n hn htable hkey) own)

/-- Whether an entry fits is not told by the order of the fields of its table. -/
theorem Shuffled.fits (h : Shuffled v w) (hfits : Fits steps v) : Fits steps w := by
  cases h with
  | refl => exact hfits
  | fields hperm =>
    match steps, hfits with
    | [.field table], hfits =>
      intro htable
      exact ⟨rfl, fun p hp => (hfits htable).2 p (hperm.mem_iff.2 hp)⟩
    | [.field table, .field key], hfits => exact hfits.of_obj _
    | .field _ :: .field _ :: _ :: _, hfits => exact hfits
    | .field _ :: .item _ :: _, hfits => exact hfits
    | [], _ | .item _ :: _, _ => trivial

/-- What an entry that fits mentions is mentioned in any order of the fields of its table. -/
theorem Shuffled.perm_mentions (h : Shuffled v w) (hfits : Fits steps v) (n : SettingName) :
    (mentions n.setting.table n.setting.key steps v).Perm
      (mentions n.setting.table n.setting.key steps w) := by
  cases h with
  | refl => exact .rfl
  | fields hperm =>
    match steps, hfits with
    | [.field table], _ =>
      rw [mentions, mentions]
      split
      · exact (hperm.filter _).map _
      · exact .rfl
    | [.field table, .field key], hfits =>
      rw [mentions, mentions]
      split
      · -- a setting is no table
        rename_i hplace
        obtain ⟨rfl, rfl⟩ := hplace
        exact absurd rfl (ne_obj_of_readable hfits _)
      · exact .rfl
    | .field _ :: .field _ :: _ :: _, _ => exact .rfl
    | .field _ :: .item _ :: _, _ => exact .rfl
    | [], _ | .item _ :: _, _ => exact .rfl

/-- In any order the entries of a layer fit, if they do in one. -/
theorem Reordered.fits (h : Reordered layer layer')
    (hfits : ∀ entry ∈ layer, Fits (stepsOf entry.1) entry.2) :
    ∀ entry ∈ layer', Fits (stepsOf entry.1) entry.2 := by
  obtain ⟨entries, hentries, hperm⟩ := h
  intro entry hentry
  rw [← hperm.mem_iff] at hentry
  -- entry by entry; only the fields of their tables are in another order
  clear hperm
  induction hentries with
  | nil => exact absurd hentry List.not_mem_nil
  | cons hentries _ ih =>
    obtain ⟨hfirst, hrest⟩ := List.forall_mem_cons.1 hfits
    obtain ⟨hpath, hshuffled⟩ := hentries
    cases List.mem_cons.1 hentry with
    | inl heq =>
      rw [heq, ← hpath]
      exact hshuffled.fits hfirst
    | inr hentry => exact ih hrest hentry

/-- In any order the entries of a layer mention the same for a setting. -/
theorem Reordered.perm_valuesIn (h : Reordered layer layer')
    (hfits : ∀ entry ∈ layer, Fits (stepsOf entry.1) entry.2) (n : SettingName) :
    (n.valuesIn layer).Perm (n.valuesIn layer') := by
  obtain ⟨entries, hentries, hperm⟩ := h
  -- first within the entries, one by one; then the entries change places
  refine List.Perm.trans ?_ (hperm.flatMap_right _)
  clear hperm
  induction hentries with
  | nil => exact .rfl
  | cons hentry _ ih =>
    obtain ⟨hfirst, hrest⟩ := List.forall_mem_cons.1 hfits
    obtain ⟨hpath, hshuffled⟩ := hentry
    rw [SettingName.valuesIn, List.flatMap_cons, List.flatMap_cons, ← hpath]
    exact (hshuffled.perm_mentions hfirst n).append (ih hrest)

/-- One value has one order. -/
theorem eq_of_perm_of_length_le_one {α : Type} {as bs : List α} (h : as.Perm bs)
    (hlength : as.length ≤ 1) : as = bs := by
  match as, hlength with
  | [], _ => exact (List.nil_perm.1 h).symm
  | [a], _ => exact (List.perm_singleton.1 h.symm).symm

/-- A definite layer mentions the same for a setting in any order. -/
theorem Reordered.valuesIn_eq (h : Reordered layer layer') (hdefinite : Definite layer)
    (n : SettingName) : n.valuesIn layer' = n.valuesIn layer :=
  (eq_of_perm_of_length_le_one (h.perm_valuesIn hdefinite.fits n)
    (hdefinite.once n n.mem_all)).symm

/-- A definite layer is definite in any order. -/
theorem Reordered.definite (h : Reordered layer layer') (hdefinite : Definite layer) :
    Definite layer' := by
  refine ⟨h.fits hdefinite.fits, fun n hn => ?_⟩
  rw [h.valuesIn_eq hdefinite]
  exact hdefinite.once n hn

/-- A definite layer gives a setting the same value in any order. -/
theorem Reordered.given?_eq (h : Reordered layer layer') (hdefinite : Definite layer)
    (n : SettingName) : n.given? layer' = n.given? layer := by
  rw [SettingName.given?, SettingName.given?, h.valuesIn_eq hdefinite]

end Plugboard.Config
