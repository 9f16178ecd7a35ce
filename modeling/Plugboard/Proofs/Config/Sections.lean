import Plugboard.Proofs.Config.Override

/-!
# What layers give the settings

The settings stand in two tables of a tree, each under a key of its own (`SettingName`). An entry of
a layer mentions a setting if its path leads to it, or to the table that holds it; it fits if it
leaves the tables tables, and mentions for each setting only values that can be read (`Fits`). A
layer is definite if all of its entries fit and no setting is mentioned twice (`Definite`).

`Gives` is the invariant of a tree that such entries are laid over: what an entry mentions last
takes the place of what the tree gave a setting before, and all other settings stay as they are
(`Gives.place`, `Gives.addLayer`). What is read from the tree in the end are the values that it
gives, and the defaults (`Gives.settings?_eq`).
-/

namespace Plugboard.Config

/-! ## Settings by name -/

/-- The settings. -/
inductive SettingName where
  | projectName
  | entryPointGroup
  | directory
  | autoLoad
  | disabled
  | level
  | format
  deriving Repr, DecidableEq

namespace SettingName

/-- The names of all settings. -/
def all : List SettingName :=
  [projectName, entryPointGroup, directory, autoLoad, disabled, level, format]

/-- Every setting is among the settings. -/
theorem mem_all (n : SettingName) : n ∈ all := by
  cases n <;> decide

/-- The type of a setting. -/
abbrev Value : SettingName → Type
  | autoLoad => Bool
  | disabled => List String
  | _ => String

/-- Where a setting stands, and how it is read. -/
def setting : (n : SettingName) → Setting n.Value
  | projectName => .projectName
  | entryPointGroup => .entryPointGroup
  | directory => .directory
  | autoLoad => .autoLoad
  | disabled => .disabled
  | level => .level
  | format => .format

/-- The value of a setting that is given nowhere. -/
def default (n : SettingName) : n.Value := n.setting.get {}

/-- A value of a setting as it is written down. -/
def encode : (n : SettingName) → n.Value → Json
  | projectName, s | entryPointGroup, s | directory, s | level, s | format, s => .str s
  | autoLoad, b => .bool b
  | disabled, names => .texts names

/-- A value of the type of a setting is read as it is. -/
theorem read?_encode (n : SettingName) (a : n.Value) : n.setting.read? (n.encode a) = some a := by
  cases n with
  | disabled => exact asTexts?_texts a
  | _ => rfl

/-- No setting is a table. -/
theorem ne_obj_of_read? {n : SettingName} {v : Json} (h : (n.setting.read? v).isSome = true) :
    ∀ fields, v ≠ .obj fields := by
  rintro fields rfl
  cases n <;> exact Bool.false_ne_true h

/-- Two settings stand in different places. -/
theorem eq_of_place {m n : SettingName} (htable : m.setting.table = n.setting.table)
    (hkey : m.setting.key = n.setting.key) : m = n := by
  revert htable hkey
  cases m <;> cases n <;> decide

end SettingName

/-- All settings with given values. -/
def settingsOf (value : (n : SettingName) → n.Value) : Settings :=
  { plugins := {
      projectName := value .projectName
      entryPointGroup := value .entryPointGroup
      directory := value .directory
      autoLoad := value .autoLoad
      disabled := value .disabled }
    logging := { level := value .level, format := value .format } }

/-! ## Entries of layers -/

/-- The tables that settings stand in. -/
def sections : List String := ["plugins", "logging"]

/-- Every setting stands in one of the two tables. -/
theorem table_mem_sections (n : SettingName) : n.setting.table ∈ sections := by
  cases n <;> decide

/-- The values under a key, in order. -/
def valuesAt (key : String) (fields : List (String × Json)) : List Json :=
  (fields.filter fun p => p.1 = key).map (·.2)

/-- The values at a key are those that its pairs hold. -/
theorem mem_valuesAt {key : String} {fields : List (String × Json)} {v : Json} :
    v ∈ valuesAt key fields ↔ (key, v) ∈ fields := by
  simp [valuesAt]

/-- The values that an entry of a layer gives what stands under a key of a table. -/
def mentions (table key : String) : List PathStep → Json → List Json
  | [.field t], v => if t = table then valuesAt key (fieldsOf v) else []
  | [.field t, .field k], v => if t = table ∧ k = key then [v] else []
  | _, _ => []

/-- A value can be read for the setting that stands under a key of a table, if one does. -/
def Readable (table key : String) (v : Json) : Prop :=
  ∀ n ∈ SettingName.all, n.setting.table = table → n.setting.key = key →
    (n.setting.read? v).isSome = true

instance (table key : String) (v : Json) : Decidable (Readable table key v) :=
  inferInstanceAs (Decidable (∀ n ∈ SettingName.all, _))

/-- An entry of a layer leaves the tables of settings tables, and gives settings only values that
    can be read. -/
def Fits : List PathStep → Json → Prop
  | [.field table], v => table ∈ sections →
    (FileFormat.tableFields? v).isSome = true ∧ ∀ p ∈ fieldsOf v, Readable table p.1 p.2
  | [.field table, .field key], v => Readable table key v
  -- such a path makes a table or an array of what stands under the key
  | .field table :: .field key :: _ :: _, _ =>
    ∀ n ∈ SettingName.all, ¬(n.setting.table = table ∧ n.setting.key = key)
  | .field table :: .item _ :: _, _ => table ∉ sections
  | [], _ | .item _ :: _, _ => True

instance decidableFits : (steps : List PathStep) → (v : Json) → Decidable (Fits steps v)
  | [.field table], v => inferInstanceAs (Decidable (table ∈ sections →
      (FileFormat.tableFields? v).isSome = true ∧ ∀ p ∈ fieldsOf v, Readable table p.1 p.2))
  | [.field table, .field key], v => inferInstanceAs (Decidable (Readable table key v))
  | .field table :: .field key :: _ :: _, _ => inferInstanceAs (Decidable
      (∀ n ∈ SettingName.all, ¬(n.setting.table = table ∧ n.setting.key = key)))
  | .field table :: .item _ :: _, _ => inferInstanceAs (Decidable (table ∉ sections))
  | [], _ | .item _ :: _, _ => inferInstanceAs (Decidable True)

/-! ## Tables of settings -/

/-- The tables that settings stand in are tables where they are there at all. -/
def Tabled (fields : List (String × Json)) : Prop :=
  ∀ table ∈ sections, ∀ v, Keyed.get? table fields = some v → ∃ own, v = .obj own

/-- The tables stay tables when a table, or what is none of them, is put. -/
theorem Tabled.put {fields : List (String × Json)} (h : Tabled fields) {key : String} {v : Json}
    (hv : key ∈ sections → ∃ own, v = .obj own) : Tabled (Keyed.put key v fields) := by
  intro table htable w hw
  by_cases hkey : table = key
  · subst hkey
    rw [Keyed.get?_put_self, Option.some.injEq] at hw
    exact hw ▸ hv htable
  · rw [Keyed.get?_put_of_ne hkey] at hw
    exact h table htable w hw

/-- A table that is put is the table found. -/
theorem inner_put_self (table : String) (own fields : List (String × Json)) :
    inner table (Keyed.put table (.obj own) fields) = own := by
  rw [inner, Keyed.get?_put_self]
  rfl

/-- To put something elsewhere leaves a table as it is. -/
theorem inner_put_of_ne {table key : String} (h : table ≠ key) (v : Json)
    (fields : List (String × Json)) :
    inner table (Keyed.put key v fields) = inner table fields := by
  rw [inner, inner, Keyed.get?_put_of_ne h]

/-- What can be read as a setting is no table. -/
theorem ne_obj_of_readable {n : SettingName} {v : Json}
    (h : Readable n.setting.table n.setting.key v) : ∀ fields, v ≠ .obj fields :=
  SettingName.ne_obj_of_read? (h n n.mem_all rfl rfl)

/-- Of the values laid over a key the last one counts, unless they are tables. -/
theorem get?_overlayFields {key : String} {own : List (String × Json)}
    (hown : ∀ v ∈ valuesAt key own, ∀ fields, v ≠ .obj fields) (base : List (String × Json)) :
    Keyed.get? key (overlayFields base own) =
      (valuesAt key own).getLast?.or (Keyed.get? key base) := by
  induction own generalizing base with
  | nil => simp [overlayFields, valuesAt]
  | cons p rest ih =>
    obtain ⟨k, v⟩ := p
    rw [overlayFields]
    -- the first pair counts only if no later one has its key
    by_cases hk : k = key
    · subst hk
      have hvalues : valuesAt k ((k, v) :: rest) = v :: valuesAt k rest := by simp [valuesAt]
      rw [hvalues] at hown ⊢
      obtain ⟨hv, hrest⟩ := List.forall_mem_cons.1 hown
      rw [ih hrest, overlay_of_ne_obj hv, Keyed.get?_put_self, List.getLast?_cons]
      cases (valuesAt k rest).getLast? <;> rfl
    · have hvalues : valuesAt key ((k, v) :: rest) = valuesAt key rest := by simp [valuesAt, hk]
      rw [hvalues] at hown ⊢
      rw [ih hown, Keyed.get?_put_of_ne (Ne.symm hk)]

/-! ## Laying an entry over tables of settings -/

/-- A path into another table mentions no setting of this one. -/
theorem mentions_of_ne {table key t : String} (h : t ≠ table) (rest : List PathStep) (v : Json) :
    mentions table key (.field t :: rest) v = [] := by
  match rest with
  | [] | [.field _] => simp [mentions, h]
  | [.item _] | .item _ :: _ :: _ | .field _ :: _ :: _ => rfl

/-- What stands under a key that no setting stands in fits. -/
theorem fits_of_not_mem {t : String} (ht : t ∉ sections) (rest : List PathStep) (v : Json) :
    Fits (.field t :: rest) v := by
  have htable : ∀ n : SettingName, n.setting.table ≠ t := fun n h => ht (h ▸ table_mem_sections n)
  match rest with
  | [] => exact fun h => absurd h ht
  | [.field key] => exact fun n _ h => absurd h (htable n)
  | .field key :: _ :: _ => exact fun n _ h => htable n h.1
  | .item _ :: _ => exact ht

/-- What an entry that fits mentions for a setting can be read. -/
theorem readable_of_mem_mentions {steps : List PathStep} {v w : Json} (hfits : Fits steps v)
    {n : SettingName} (h : w ∈ mentions n.setting.table n.setting.key steps v) :
    (n.setting.read? w).isSome = true := by
  -- only a path of one or two keys mentions a setting
  match steps, hfits, h with
  | [.field t], hfits, h =>
    rw [mentions] at h
    split at h
    · rename_i ht
      subst ht
      have hreadable := (hfits (table_mem_sections n)).2 (n.setting.key, w) (mem_valuesAt.1 h)
      exact hreadable n n.mem_all rfl rfl
    · exact absurd h List.not_mem_nil
  | [.field t, .field k], hfits, h =>
    rw [mentions] at h
    split at h
    · rename_i hplace
      obtain ⟨rfl, rfl⟩ := hplace
      rw [List.mem_singleton] at h
      exact h ▸ hfits n n.mem_all rfl rfl
    · exact absurd h List.not_mem_nil

/-- What fields that are laid over others say of the settings: what an entry mentions last, or else
    what was said before. -/
structure LaidOver (steps : List PathStep) (v : Json) (fields out : List (String × Json)) :
    Prop where
  tabled : Tabled out
  get?_eq : ∀ n : SettingName, Keyed.get? n.setting.key (inner n.setting.table out) =
    (mentions n.setting.table n.setting.key steps v).getLast?.or
      (Keyed.get? n.setting.key (inner n.setting.table fields))

/-- What stands under a key that no setting stands in says nothing of the settings. -/
theorem laidOver_of_not_mem {fields : List (String × Json)} (htabled : Tabled fields) {t : String}
    (ht : t ∉ sections) (rest : List PathStep) (v w : Json) :
    LaidOver (.field t :: rest) v fields (Keyed.put t w fields) := by
  constructor
  · exact htabled.put fun hmem => absurd hmem ht
  · intro n
    have hne : t ≠ n.setting.table := fun h => ht (h ▸ table_mem_sections n)
    rw [inner_put_of_ne (Ne.symm hne), mentions_of_ne hne]
    rfl

/-- What is laid over a section is told by what it makes of the settings there. -/
theorem laidOver_section {fields : List (String × Json)} (htabled : Tabled fields) {t : String}
    {rest : List PathStep} {v : Json} {own : List (String × Json)}
    (hown : ∀ n : SettingName, n.setting.table = t → Keyed.get? n.setting.key own =
      (mentions t n.setting.key (.field t :: rest) v).getLast?.or
        (Keyed.get? n.setting.key (inner t fields))) :
    LaidOver (.field t :: rest) v fields (Keyed.put t (.obj own) fields) := by
  constructor
  · exact htabled.put fun _ => ⟨own, rfl⟩
  · intro n
    -- only the settings of this section can tell a difference
    by_cases ht : t = n.setting.table
    · subst ht
      rw [inner_put_self]
      exact hown n rfl
    · rw [inner_put_of_ne (Ne.symm ht), mentions_of_ne ht]
      rfl

/-- A table is laid over that of a section. -/
theorem laidOver_table {fields : List (String × Json)} (htabled : Tabled fields) {t : String}
    {own : List (String × Json)} (hown : ∀ p ∈ own, Readable t p.1 p.2) :
    LaidOver [.field t] (.obj own) fields
      (Keyed.put t (.obj (overlayFields (inner t fields) own)) fields) := by
  refine laidOver_section htabled fun n hn => ?_
  subst hn
  have hvalues : ∀ v ∈ valuesAt n.setting.key own, ∀ fields, v ≠ .obj fields :=
    fun v hv => ne_obj_of_readable (hown (n.setting.key, v) (mem_valuesAt.1 hv))
  rw [get?_overlayFields hvalues, mentions, if_pos rfl]
  rfl

/-- A value is laid over what stands under a key of a section. -/
theorem laidOver_value {fields : List (String × Json)} (htabled : Tabled fields) {t k : String}
    {v : Json} (hv : Readable t k v) :
    LaidOver [.field t, .field k] v fields
      (Keyed.put t (.obj (Keyed.put k
        (overlay ((Keyed.get? k (inner t fields)).getD .null) v) (inner t fields))) fields) := by
  refine laidOver_section htabled fun n hn => ?_
  subst hn
  by_cases hk : k = n.setting.key
  · subst hk
    rw [Keyed.get?_put_self, overlay_of_ne_obj (ne_obj_of_readable hv), mentions,
      if_pos ⟨rfl, rfl⟩]
    rfl
  · rw [Keyed.get?_put_of_ne (Ne.symm hk), mentions, if_neg fun h => hk h.2]
    rfl

/-- What is changed further inside a section is no setting. -/
theorem laidOver_further {fields : List (String × Json)} (htabled : Tabled fields) {t k : String}
    (hk : ∀ n ∈ SettingName.all, ¬(n.setting.table = t ∧ n.setting.key = k)) (step : PathStep)
    (rest : List PathStep) (v w : Json) :
    LaidOver (.field t :: .field k :: step :: rest) v fields
      (Keyed.put t (.obj (Keyed.put k w (inner t fields))) fields) := by
  refine laidOver_section htabled fun n hn => ?_
  have hne : n.setting.key ≠ k := fun h => hk n n.mem_all ⟨hn, h⟩
  rw [Keyed.get?_put_of_ne hne]
  rfl

/-- To set an entry that fits lays what it mentions over the tree. -/
theorem exists_place {fields : List (String × Json)} (htabled : Tabled fields) {path : String}
    {v : Json} (hfits : Fits (stepsOf path) v) :
    ∃ out, place (.obj fields) path v = .obj out ∧ LaidOver (stepsOf path) v fields out := by
  obtain ⟨t, rest, hsteps⟩ := exists_stepsOf path
  rw [place, hsteps]
  rw [hsteps] at hfits
  by_cases ht : t ∈ sections
  · -- the path ends at the section, or goes on to a key in it, and there ends or goes on
    cases rest with
    | nil =>
      obtain ⟨hobj, hown⟩ := hfits ht
      obtain ⟨own, rfl⟩ : ∃ own, v = .obj own := by
        cases v with
        | obj own => exact ⟨own, rfl⟩
        | _ => exact absurd hobj Bool.false_ne_true
      refine ⟨_, ?_, laidOver_table htabled hown⟩
      rw [changeAt_field, changeAt, overlay, inner]
    | cons step rest =>
      cases step with
      | item => exact absurd ht hfits
      | field k =>
        refine ⟨_, changeAt_field_field _ t k rest fields, ?_⟩
        cases rest with
        | nil => exact laidOver_value htabled hfits
        | cons step rest => exact laidOver_further htabled hfits step rest v _
  · exact ⟨_, changeAt_field _ t rest fields, laidOver_of_not_mem htabled ht rest v _⟩

/-! ## What layers give -/

namespace SettingName

/-- The values that the entries of a layer give a setting, in order. -/
def valuesIn (n : SettingName) (layer : List (String × Json)) : List Json :=
  layer.flatMap fun entry => mentions n.setting.table n.setting.key (stepsOf entry.1) entry.2

/-- The value that a layer gives a setting: what its last mention reads as. -/
def given? (n : SettingName) (layer : List (String × Json)) : Option n.Value :=
  (n.valuesIn layer).getLast?.bind n.setting.read?

end SettingName

/-- The entries of a layer fit, and no setting is mentioned twice, so that it does not matter in
    which order they are laid over a tree. -/
structure Definite (layer : List (String × Json)) : Prop where
  fits : ∀ entry ∈ layer, Fits (stepsOf entry.1) entry.2
  once : ∀ n ∈ SettingName.all, (n.valuesIn layer).length ≤ 1

instance : DecidablePred Definite := fun layer =>
  decidable_of_iff ((∀ entry ∈ layer, Fits (stepsOf entry.1) entry.2) ∧
    ∀ n ∈ SettingName.all, (n.valuesIn layer).length ≤ 1)
    ⟨fun h => ⟨h.1, h.2⟩, fun h => ⟨h.fits, h.once⟩⟩

/-- The tables of settings are tables, and what stands for a setting reads as the value that is
    given for it; nothing stands for the others. -/
structure Gives (fields : List (String × Json)) (value? : (n : SettingName) → Option n.Value) :
    Prop where
  tabled : Tabled fields
  read?_eq : ∀ n, (Keyed.get? n.setting.key (inner n.setting.table fields)).map n.setting.read? =
    (value? n).map some

/-- The empty tree gives no setting a value. -/
theorem gives_nil : Gives [] fun _ => none :=
  ⟨fun _ _ _ h => absurd h nofun, fun _ => rfl⟩

variable {fields : List (String × Json)} {value? : (n : SettingName) → Option n.Value}

/-- Where all that counts can be read, the reading of what counts last counts last. -/
theorem read?_getLast?_or {n : SettingName} {values : List Json} {old : Option Json}
    {a? : Option n.Value} (hvalues : ∀ v ∈ values, (n.setting.read? v).isSome = true)
    (hold : old.map n.setting.read? = a?.map some) :
    (values.getLast?.or old).map n.setting.read? =
      ((values.getLast?.bind n.setting.read?).or a?).map some := by
  cases hlast : values.getLast? with
  | none => exact hold
  | some v =>
    obtain ⟨a, ha⟩ := Option.isSome_iff_exists.1 (hvalues v (List.mem_of_getLast? hlast))
    simp [ha]

/-- An entry that fits takes the place of what the tree gave before. -/
theorem Gives.place (h : Gives fields value?) {path : String} {v : Json}
    (hfits : Fits (stepsOf path) v) :
    ∃ out, place (.obj fields) path v = .obj out ∧
      Gives out fun n => (n.given? [(path, v)]).or (value? n) := by
  obtain ⟨out, hout, hlaid⟩ := exists_place h.tabled hfits
  refine ⟨out, hout, hlaid.tabled, fun n => ?_⟩
  rw [hlaid.get?_eq, SettingName.given?, SettingName.valuesIn, List.flatMap_singleton]
  exact read?_getLast?_or (fun w hw => readable_of_mem_mentions hfits hw) (h.read?_eq n)

/-- What the values that a layer gives a setting say can be read, if its entries fit. -/
theorem readable_of_mem_valuesIn {n : SettingName} {layer : List (String × Json)}
    (hfits : ∀ entry ∈ layer, Fits (stepsOf entry.1) entry.2) {v : Json}
    (h : v ∈ n.valuesIn layer) : (n.setting.read? v).isSome = true := by
  obtain ⟨entry, hentry, hv⟩ := List.mem_flatMap.1 h
  exact readable_of_mem_mentions (hfits entry hentry) hv

/-- The first entry of a layer gives a setting its value only if the others give it none. -/
theorem given?_cons (n : SettingName) (entry : String × Json) {layer : List (String × Json)}
    (hfits : ∀ entry ∈ layer, Fits (stepsOf entry.1) entry.2) :
    n.given? (entry :: layer) = (n.given? layer).or (n.given? [entry]) := by
  have hvalues : n.valuesIn (entry :: layer) = n.valuesIn [entry] ++ n.valuesIn layer := by
    rw [SettingName.valuesIn, List.flatMap_cons, SettingName.valuesIn, List.flatMap_singleton]
    rfl
  rw [SettingName.given?, SettingName.given?, SettingName.given?, hvalues, List.getLast?_append]
  -- what the others mention last can be read, so it counts and the first entry does not
  cases hlast : (n.valuesIn layer).getLast? with
  | none => rfl
  | some v =>
    obtain ⟨a, ha⟩ := Option.isSome_iff_exists.1
      (readable_of_mem_valuesIn hfits (List.mem_of_getLast? hlast))
    simp [ha]

/-- What a layer gives takes the place of what was given, setting by setting. -/
theorem Gives.addLayer {layer : List (String × Json)} (h : Gives fields value?)
    (hfits : ∀ entry ∈ layer, Fits (stepsOf entry.1) entry.2) :
    ∃ out, addLayer (.obj fields) layer = .obj out ∧
      Gives out fun n => (n.given? layer).or (value? n) := by
  induction layer generalizing fields value? with
  | nil => exact ⟨fields, rfl, h⟩
  | cons entry rest ih =>
    obtain ⟨path, v⟩ := entry
    obtain ⟨hentry, hrest⟩ := List.forall_mem_cons.1 hfits
    obtain ⟨next, hnext, hgives⟩ := h.place hentry
    -- the first entry is laid over the tree, and the others over what comes of it
    obtain ⟨out, hout, hgives⟩ := ih hgives hrest
    refine ⟨out, ?_, ?_⟩
    · rw [addLayer_cons, hnext, hout]
    · simpa only [given?_cons _ _ hrest, Option.or_assoc] using hgives

/-! ## Reading the settings -/

/-- What is read for a setting is what the tree gives, or the default. -/
theorem Gives.fieldOr_eq (h : Gives fields value?) (n : SettingName) (i : Nat) :
    fieldOr n.default (.obj (inner n.setting.table fields)) i n.setting.key n.setting.read? =
      some ((value? n).getD n.default) := by
  have hread := h.read?_eq n
  simp only [fieldOr]
  cases hvalue : Keyed.get? n.setting.key (inner n.setting.table fields) with
  | none =>
    rw [hvalue, Option.map_none] at hread
    rw [Option.map_eq_none_iff.1 hread.symm]
    rfl
  | some v =>
    rw [hvalue, Option.map_some] at hread
    obtain ⟨a, ha, hv⟩ := Option.map_eq_some_iff.1 hread.symm
    rw [ha]
    exact hv.symm

/-- A table of settings is read from its fields, also where it is not there. -/
theorem Tabled.fieldOr_eq {ρ : Type} (h : Tabled fields) {table : String}
    (htable : table ∈ sections) {default : ρ} (read? : Json → Option ρ)
    (hempty : read? (.obj []) = some default) (i : Nat) :
    fieldOr default (.obj fields) i table read? = read? (.obj (inner table fields)) := by
  simp only [fieldOr, inner]
  cases hvalue : Keyed.get? table fields with
  | none => exact hempty.symm
  | some v =>
    obtain ⟨own, rfl⟩ := h table htable v hvalue
    rfl

/-- The settings are read, each with what the tree gives it, or the default. -/
theorem Gives.settings?_eq (h : Gives fields value?) :
    settings? (.obj fields) = some (settingsOf fun n => (value? n).getD n.default) := by
  rw [settings?_eq_some_iff, h.tabled.fieldOr_eq (by decide) pluginSettings? rfl,
    h.tabled.fieldOr_eq (by decide) loggingSettings? rfl, pluginSettings?_eq_some_iff,
    loggingSettings?_eq_some_iff]
  constructor
  · exact ⟨h.fieldOr_eq .projectName 0, h.fieldOr_eq .entryPointGroup 1,
      h.fieldOr_eq .directory 2, h.fieldOr_eq .autoLoad 3, h.fieldOr_eq .disabled 4⟩
  · exact ⟨h.fieldOr_eq .level 0, h.fieldOr_eq .format 1⟩

end Plugboard.Config
