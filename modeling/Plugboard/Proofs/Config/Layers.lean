import Mathlib.Logic.Function.Basic
import Plugboard.Proofs.Config.Reordering
import Plugboard.Proofs.Toml.Distinct

/-!
# Files laid over each other

`load_setting_by_setting`: where every file fits, the settings load, and each of them is what the
last file that gives it says, whatever the files say of the others (`SettingName.resolved`). The
induction on the files carries `Gives`; a variable is one layer more.

A file fits if its layer is `Definite`, so the order in which its entries are laid over those of the
files before it does not matter (`LoadsAs`). A TOML file does if none of its keys is a path into the
tables of settings, since no table of a document has a key twice (`fitsAt_of_plainAt`); what keys do
that are such paths, `keys_taken_for_paths` shows.
-/

namespace Plugboard.Config

/-! ## Layers laid over each other -/

/-- The settings that layers give, each laid over those before it, and environment variables. -/
def loadLayers (layers : List (List (String × Json))) (env : List (String × String)) :
    Except AppError Settings :=
  (settings? (addLayer (layers.foldl addLayer (.obj [])) (layerOfVariables env))).elim
    (.error (.configuration "Failed to deserialize config")) .ok

variable {fields : List (String × Json)} {value? : (n : SettingName) → Option n.Value}
  {layers layers' : List (List (String × Json))}

/-- Of the values of some items the last counts; that of the first only if the others have none. -/
theorem getLast?_filterMap_cons {α β : Type} (f : α → Option β) (a : α) (items : List α) :
    ((a :: items).filterMap f).getLast? = (items.filterMap f).getLast?.or (f a) := by
  rw [List.filterMap_cons]
  cases f a with
  | none => rw [Option.or_none]
  | some b =>
    rw [List.getLast?_cons]
    cases (items.filterMap f).getLast? <;> rfl

/-- What the last of some layers gives a setting counts, over what was given before. -/
theorem Gives.addLayers (h : Gives fields value?) (hlayers : ∀ layer ∈ layers, Definite layer) :
    ∃ out, layers.foldl Config.addLayer (.obj fields) = .obj out ∧
      Gives out fun n => (layers.filterMap n.given?).getLast?.or (value? n) := by
  -- on the layers; `value?` is what those before them have given
  induction layers generalizing fields value? with
  | nil => exact ⟨fields, rfl, h⟩
  | cons layer rest ih =>
    obtain ⟨hlayer, hrest⟩ := List.forall_mem_cons.1 hlayers
    obtain ⟨next, hnext, hgives⟩ := h.addLayer hlayer.fits
    obtain ⟨out, hout, hgives⟩ := ih hgives hrest
    refine ⟨out, ?_, ?_⟩
    · rw [List.foldl_cons, hnext]
      exact hout
    · simpa only [getLast?_filterMap_cons, Option.or_assoc] using hgives

/-- Definite layers come to a tree of what the last of them that gives a setting gives it. -/
theorem exists_gives (hlayers : ∀ layer ∈ layers, Definite layer) :
    ∃ out, layers.foldl addLayer (.obj []) = .obj out ∧
      Gives out fun n => (layers.filterMap n.given?).getLast? := by
  simpa only [Option.or_none] using gives_nil.addLayers hlayers

/-- The value that the last of some layers that gives a setting gives it, or its default. -/
def SettingName.lastOf (n : SettingName) (layers : List (List (String × Json))) : n.Value :=
  (layers.filterMap n.given?).getLast?.getD n.default

/-- In any order definite layers are definite, and give each setting the same values. -/
theorem definite_of_reordered (h : List.Forall₂ Reordered layers layers')
    (hlayers : ∀ layer ∈ layers, Definite layer) :
    (∀ layer ∈ layers', Definite layer) ∧
      ∀ n : SettingName, layers'.filterMap n.given? = layers.filterMap n.given? := by
  induction h with
  | nil => exact ⟨hlayers, fun _ => rfl⟩
  | cons hlayer _ ih =>
    obtain ⟨hfirst, hrest⟩ := List.forall_mem_cons.1 hlayers
    obtain ⟨hdefinite, hgiven⟩ := ih hrest
    refine ⟨List.forall_mem_cons.2 ⟨hlayer.definite hfirst, hdefinite⟩, fun n => ?_⟩
    rw [List.filterMap_cons, List.filterMap_cons, hlayer.given?_eq hfirst, hgiven]

/-! ## Variables -/

/-- Variables that are for nothing give no layer. -/
theorem layerOfVariables_of_forall {env : List (String × String)}
    (h : ∀ p ∈ env, variablePath? p.1 = none) : layerOfVariables env = [] := by
  rw [List.eq_nil_iff_forall_not_mem]
  rintro ⟨path, v⟩ hmem
  obtain ⟨p, hp, hpath⟩ := exists_variable hmem
  rw [h p hp] at hpath
  exact nomatch hpath

/-- The one variable that is for a setting gives the layer. -/
theorem layerOfVariables_single {before after : List (String × String)}
    (h : ∀ p ∈ before ++ after, variablePath? p.1 = none) {name path : String}
    (hname : variablePath? name = some path) (text : String) :
    layerOfVariables (before ++ (name, text) :: after) = [(path, variableValue path text)] := by
  have hothers : ∀ p ∈ before ++ after, variablePath? p.1 ≠ some path := by
    intro p hp
    rw [h p hp]
    exact nofun
  obtain ⟨first, last, hwithout, hwith⟩ := exists_layer hname hothers
  rw [layerOfVariables_of_forall h] at hwithout
  obtain ⟨rfl, rfl⟩ := List.append_eq_nil_iff.1 hwithout.symm
  exact hwith text

/-- A value is laid over a setting, if it can be read as one, and the others stay; if it cannot,
    there is no reading the settings. -/
theorem Gives.settings?_place (h : Gives fields value?) {n : SettingName} {v : Json}
    (hv : ∀ fields, v ≠ .obj fields) :
    settings? (Config.addLayer (.obj fields) [(n.setting.path, v)]) =
      (n.setting.read? v).map fun a =>
        settingsOf (Function.update (fun m => (value? m).getD m.default) n a) := by
  cases hread : n.setting.read? v with
  | none =>
    -- the tree with the value in it is one that loads but for this field
    have hget : (settings? (Config.addLayer (.obj fields) ([] ++ [(n.setting.path, v)]))).map
        n.setting.get = n.setting.read? v :=
      n.setting.map_get_settings? (by simp) hv (.inl ⟨_, h.settings?_eq⟩)
    rw [hread, Option.map_eq_none_iff] at hget
    exact hget
  | some a =>
    have hsteps : stepsOf n.setting.path = [.field n.setting.table, .field n.setting.key] :=
      n.setting.steps_eq
    have hfits : Fits (stepsOf n.setting.path) v := by
      rw [hsteps]
      intro m _ htable hkey
      rw [SettingName.eq_of_place htable hkey, hread]
      rfl
    obtain ⟨out, hout, hgives⟩ := h.place hfits
    rw [addLayer_cons, hout, Config.addLayer, List.foldl_nil, hgives.settings?_eq]
    congr 2
    funext m
    rw [SettingName.given?, SettingName.valuesIn, List.flatMap_singleton, hsteps, mentions]
    by_cases hm : m = n
    · subst hm
      simp [hread]
    · -- no two settings stand in one place, so the others are not touched
      have hplace : ¬(n.setting.table = m.setting.table ∧ n.setting.key = m.setting.key) :=
        fun h => hm (SettingName.eq_of_place h.1 h.2).symm
      simp [hplace, hm]

/-- Where no variable is for a setting, definite layers give what the last of them says. -/
theorem loadLayers_eq (hlayers : ∀ layer ∈ layers, Definite layer) {env : List (String × String)}
    (henv : ∀ p ∈ env, variablePath? p.1 = none) :
    loadLayers layers env = .ok (settingsOf fun n => n.lastOf layers) := by
  obtain ⟨fields, hfields, hgives⟩ := exists_gives hlayers
  rw [loadLayers, layerOfVariables_of_forall henv, hfields, Config.addLayer, List.foldl_nil,
    hgives.settings?_eq]
  rfl

/-- A variable for a setting changes what definite layers give in this setting alone, if its text
    can be read as one; if it cannot, the settings do not load. -/
theorem loadLayers_variable (hlayers : ∀ layer ∈ layers, Definite layer)
    {before after : List (String × String)}
    (henv : ∀ p ∈ before ++ after, variablePath? p.1 = none) {n : SettingName} {name : String}
    (hname : variablePath? name = some n.setting.path) (text : String) :
    loadLayers layers (before ++ (name, text) :: after) =
      ((n.setting.read? (variableValue n.setting.path text)).map fun a =>
        settingsOf (Function.update (fun m => m.lastOf layers) n a)).elim
        (.error (.configuration "Failed to deserialize config")) .ok := by
  obtain ⟨fields, hfields, hgives⟩ := exists_gives hlayers
  rw [loadLayers, layerOfVariables_single henv hname, hfields,
    hgives.settings?_place (variableValue_ne_obj _ text)]
  rfl

/-! ## Files -/

/-- The entries of the file that a path stands for. -/
def layer? (files : Files) (path : String) : Option (List (String × Json)) :=
  (findSettings? files path).bind fun (format, contents) => format.read? (Text.ofBytes contents)

/-- Whether a path stands for a file of settings. -/
def isPresent (files : Files) (path : String) : Bool := (findSettings? files path).isSome

/-- A path stands for no file of settings, or for one with a definite layer: what it holds under the
    keys of the tables of settings, where it does, are tables, and in them settings have values of
    the right types. The same goes for what its other keys lead to as paths (`'logging.level'` to a
    setting, `'plugins[0]'` to a table of settings that is none), and no setting is given twice.
    What leads to no setting and to no table of settings does not matter. -/
def FitsAt (files : Files) (path : String) : Prop :=
  findSettings? files path = none ∨ ∃ layer ∈ layer? files path, Definite layer

instance (files : Files) : DecidablePred (FitsAt files) := fun _ =>
  inferInstanceAs (Decidable (_ ∨ _))

/-- An entry of a layer is a table of settings that have values of the right types, under its key,
    or stands under a key that is no path to such a table. -/
def PlainEntry (entry : String × Json) : Prop :=
  if entry.1 ∈ sections then Fits [.field entry.1] entry.2
  else ∀ table ∈ sections, (stepsOf entry.1).head? ≠ some (.field table)

instance : DecidablePred PlainEntry := fun _ => inferInstanceAs (Decidable (ite _ _ _))

/-- A path stands for a TOML file whose tables of settings, where they are there, are tables in
    which settings have values of the right types, and that has no other keys that are paths to
    them. -/
def PlainAt (files : Files) (path : String) : Prop :=
  (findSettings? files path).map (·.1) = some .toml ∧
    ∃ layer ∈ layer? files path, ∀ entry ∈ layer, PlainEntry entry

instance (files : Files) : DecidablePred (PlainAt files) := fun _ =>
  inferInstanceAs (Decidable (_ ∧ _))

/-- The value that the file that a path stands for gives a setting. -/
def SettingName.givenBy? (n : SettingName) (files : Files) (path : String) : Option n.Value :=
  (layer? files path).bind n.given?

/-- The value that the last of some files that gives a setting gives it, or its default. -/
def SettingName.resolved (n : SettingName) (files : Files) (paths : List String) : n.Value :=
  (paths.filterMap (n.givenBy? files)).getLast?.getD n.default

/-- What files and variables load as, be the entries of each file laid over those of the files
    before it as they are written or in any other order. -/
structure LoadsAs (files : Files) (env : List (String × String)) (paths : List String)
    (result : Except AppError Settings) : Prop where
  asWritten : load files env paths = result
  inAnyOrder : ∀ layers, List.Forall₂ Reordered (paths.filterMap (layer? files)) layers →
    loadLayers layers env = result

variable {files : Files} {paths : List String}

/-- The last of some files that gives a setting is the last of their layers that does. -/
theorem SettingName.lastOf_layers (n : SettingName) :
    n.lastOf (paths.filterMap (layer? files)) = n.resolved files paths := by
  rw [lastOf, List.filterMap_filterMap]
  rfl

/-- Files that fit have definite layers. -/
theorem definite_of_fitsAt (hfits : ∀ path ∈ paths, FitsAt files path) :
    ∀ layer ∈ paths.filterMap (layer? files), Definite layer := by
  intro layer hlayer
  obtain ⟨path, hpath, hlayer⟩ := List.mem_filterMap.1 hlayer
  obtain habsent | ⟨layer', hlayer', hdefinite⟩ := hfits path hpath
  · rw [layer?, habsent] at hlayer
    exact nomatch hlayer
  · obtain rfl := Option.some.inj (hlayer.symm.trans hlayer')
    exact hdefinite

/-- A file that fits has its layer laid over a tree, and one that is not there leaves it. -/
theorem addFile?_eq {path : String} (hfits : FitsAt files path) (tree : Json) :
    addFile? files tree path = some ((layer? files path).toList.foldl addLayer tree) := by
  obtain habsent | ⟨layer, hlayer, -⟩ := hfits
  · rw [addFile?, layer?, habsent]
    rfl
  · rw [Option.mem_def.1 hlayer]
    obtain ⟨⟨format, contents⟩, hfind, hread⟩ := Option.bind_eq_some_iff.1 hlayer
    rw [addFile?, hfind]
    exact Option.map_eq_some_iff.2 ⟨layer, hread, rfl⟩

/-- Files that fit have their layers laid over a tree, each over those before it. -/
theorem foldlM_addFile?_eq (hfits : ∀ path ∈ paths, FitsAt files path) (tree : Json) :
    paths.foldlM (addFile? files) tree =
      some ((paths.filterMap (layer? files)).foldl addLayer tree) := by
  induction paths generalizing tree with
  | nil => rfl
  | cons path rest ih =>
    obtain ⟨hpath, hrest⟩ := List.forall_mem_cons.1 hfits
    rw [List.foldlM_cons, addFile?_eq hpath, Option.bind_eq_bind, Option.bind_some, ih hrest,
      List.filterMap_cons]
    cases layer? files path <;> rfl

/-- To load files that fit is to load their layers. -/
theorem load_eq_loadLayers (hfits : ∀ path ∈ paths, FitsAt files path)
    (env : List (String × String)) :
    load files env paths = loadLayers (paths.filterMap (layer? files)) env := by
  have hfold := foldlM_addFile?_eq hfits (.obj [])
  obtain ⟨fields, hfields, -⟩ := exists_gives (definite_of_fitsAt hfits)
  rw [hfields] at hfold
  rw [load_of_tree hfold, loadLayers, hfields]

/-- What definite layers of files load as in any order, the files load as. -/
theorem loadsAs_of_layers (hfits : ∀ path ∈ paths, FitsAt files path)
    {env : List (String × String)} {result : Except AppError Settings}
    (h : ∀ layers, (∀ layer ∈ layers, Definite layer) →
      (∀ n : SettingName, n.lastOf layers = n.resolved files paths) →
      loadLayers layers env = result) : LoadsAs files env paths result := by
  -- the order in the files themselves is one of the orders
  have hinAnyOrder : ∀ layers, List.Forall₂ Reordered (paths.filterMap (layer? files)) layers →
      loadLayers layers env = result := by
    intro layers hlayers
    obtain ⟨hdefinite, hgiven⟩ := definite_of_reordered hlayers (definite_of_fitsAt hfits)
    refine h layers hdefinite fun n => ?_
    rw [← n.lastOf_layers, SettingName.lastOf, hgiven, SettingName.lastOf]
  refine ⟨?_, hinAnyOrder⟩
  rw [load_eq_loadLayers hfits]
  exact hinAnyOrder _ (List.forall₂_same.2 fun layer _ => .refl layer)

/-- Files that fit load as what the last of them that gives a setting says. -/
theorem loadsAs_resolved (hfits : ∀ path ∈ paths, FitsAt files path) {env : List (String × String)}
    (henv : ∀ p ∈ env, variablePath? p.1 = none) :
    LoadsAs files env paths (.ok (settingsOf fun n => n.resolved files paths)) := by
  refine loadsAs_of_layers hfits fun layers hdefinite hlast => ?_
  rw [loadLayers_eq hdefinite henv]
  simp only [hlast]

/-! ## Plain files -/

/-- Where keys are distinct, a key has one value at most. -/
theorem length_valuesAt_le_one {entries : List (String × Json)}
    (hkeys : (Keyed.keys entries).Nodup) (key : String) : (valuesAt key entries).length ≤ 1 := by
  induction entries with
  | nil => exact Nat.zero_le 1
  | cons p rest ih =>
    obtain ⟨hp, hrest⟩ := List.nodup_cons.1 hkeys
    by_cases hkey : p.1 = key
    · -- a second value would be one more of the same key
      have hnone : valuesAt key rest = [] := by
        rw [List.eq_nil_iff_forall_not_mem]
        intro v hv
        exact hp (List.mem_map.2 ⟨(key, v), mem_valuesAt.1 hv, hkey.symm⟩)
      have hvalues : valuesAt key (p :: rest) = p.2 :: valuesAt key rest := by simp [valuesAt, hkey]
      rw [hvalues, hnone]
      exact Nat.le_refl 1
    · have hvalues : valuesAt key (p :: rest) = valuesAt key rest := by simp [valuesAt, hkey]
      rw [hvalues]
      exact ih hrest

/-- The key of a table of settings is a path to it. -/
theorem stepsOf_of_mem_sections {table : String} (h : table ∈ sections) :
    stepsOf table = [.field table] := by
  revert table
  decide +kernel

/-- Any other key of a plain entry leads elsewhere. -/
theorem PlainEntry.exists_stepsOf {entry : String × Json} (h : PlainEntry entry)
    (hentry : entry.1 ∉ sections) :
    ∃ key rest, stepsOf entry.1 = .field key :: rest ∧ key ∉ sections := by
  obtain ⟨key, rest, hsteps⟩ := Config.exists_stepsOf entry.1
  refine ⟨key, rest, hsteps, fun hkey => ?_⟩
  rw [PlainEntry, if_neg hentry] at h
  exact h key hkey (by rw [hsteps, List.head?_cons])

/-- Plain entries fit. -/
theorem PlainEntry.fits {entry : String × Json} (h : PlainEntry entry) :
    Fits (stepsOf entry.1) entry.2 := by
  by_cases hentry : entry.1 ∈ sections
  · rw [PlainEntry, if_pos hentry] at h
    rw [stepsOf_of_mem_sections hentry]
    exact h
  · obtain ⟨key, rest, hsteps, hkey⟩ := h.exists_stepsOf hentry
    rw [hsteps]
    exact fits_of_not_mem hkey rest entry.2

/-- What a plain entry mentions for a setting stands in the table under its key. -/
theorem PlainEntry.mentions_eq {entry : String × Json} (h : PlainEntry entry) (n : SettingName) :
    mentions n.setting.table n.setting.key (stepsOf entry.1) entry.2 =
      if entry.1 = n.setting.table then valuesAt n.setting.key (fieldsOf entry.2) else [] := by
  by_cases hentry : entry.1 ∈ sections
  · rw [stepsOf_of_mem_sections hentry, mentions]
  · obtain ⟨key, rest, hsteps, hkey⟩ := h.exists_stepsOf hentry
    have htable : ∀ {key}, key ∉ sections → key ≠ n.setting.table :=
      fun hkey heq => hkey (heq ▸ table_mem_sections n)
    rw [hsteps, mentions_of_ne (htable hkey), if_neg (htable hentry)]

/-- Where entries are plain, a setting is given only in what stands under the key of its table. -/
theorem valuesIn_of_plain {layer : List (String × Json)}
    (hplain : ∀ entry ∈ layer, PlainEntry entry) (n : SettingName) :
    n.valuesIn layer = (valuesAt n.setting.table layer).flatMap fun v =>
      valuesAt n.setting.key (fieldsOf v) := by
  induction layer with
  | nil => rfl
  | cons entry rest ih =>
    obtain ⟨hentry, hrest⟩ := List.forall_mem_cons.1 hplain
    have hvalues : n.valuesIn (entry :: rest) =
        mentions n.setting.table n.setting.key (stepsOf entry.1) entry.2 ++ n.valuesIn rest := by
      rw [SettingName.valuesIn, List.flatMap_cons, SettingName.valuesIn]
    rw [hvalues, ih hrest, hentry.mentions_eq]
    -- a plain entry mentions the setting only under the key of its table
    by_cases htable : entry.1 = n.setting.table
    · simp [valuesAt, htable]
    · simp [valuesAt, htable]

/-- In a value with distinct keys, a key has one value at most. -/
theorem length_valuesAt_fieldsOf_le_one {v : Json} (h : v.DistinctKeys) (key : String) :
    (valuesAt key (fieldsOf v)).length ≤ 1 := by
  cases h with
  | obj hkeys => exact length_valuesAt_le_one hkeys key
  | arr => exact Nat.zero_le 1
  | scalar _ hobj =>
    rw [fieldsOf]
    · exact Nat.zero_le 1
    · exact hobj

/-- Plain files fit: as no table has a key twice, no setting is given twice. -/
theorem fitsAt_of_plainAt {path : String} (h : PlainAt files path) : FitsAt files path := by
  obtain ⟨hformat, layer, hlayer, hplain⟩ := h
  refine .inr ⟨layer, hlayer, fun entry hentry => (hplain entry hentry).fits, fun n _ => ?_⟩
  rw [valuesIn_of_plain hplain]
  obtain ⟨⟨format, contents⟩, hfind, hread⟩ := Option.bind_eq_some_iff.1 hlayer
  rw [hfind, Option.map_some, Option.some.injEq] at hformat
  subst hformat
  obtain ⟨v, hv, hfields⟩ := Option.bind_eq_some_iff.1 hread
  -- the layer is what the document was read as
  have hdistinct : (Json.obj layer).DistinctKeys := by
    cases v with
    | obj fields =>
      obtain rfl := Option.some.inj hfields
      exact Toml.distinctKeys_read? hv
    | _ => exact nomatch hfields
  -- one table under its key, and one value under that of the setting
  have hone := length_valuesAt_fieldsOf_le_one hdistinct n.setting.table
  cases hfirst : valuesAt n.setting.table layer with
  | nil => exact Nat.zero_le 1
  | cons w rest =>
    rw [fieldsOf, hfirst, List.length_cons, Nat.succ_le_succ_iff, Nat.le_zero,
      List.length_eq_zero_iff] at hone
    rw [hone, List.flatMap_singleton]
    have hw : (n.setting.table, w) ∈ layer := mem_valuesAt.1 (hfirst ▸ List.mem_cons_self)
    cases hdistinct with
    | obj _ hvalues => exact length_valuesAt_fieldsOf_le_one (hvalues _ hw) n.setting.key
    | scalar _ hobj => exact absurd rfl (hobj layer)

/-! ## Lists of files -/

/-- A file that is not there gives nothing. -/
theorem SettingName.givenBy?_of_absent {path : String} (h : findSettings? files path = none)
    (n : SettingName) : n.givenBy? files path = none := by
  rw [givenBy?, layer?, h]
  rfl

/-- Files that are not there give nothing. -/
theorem SettingName.resolved_congr {paths' : List String}
    (h : paths'.filter (isPresent files) = paths.filter (isPresent files)) (n : SettingName) :
    n.resolved files paths' = n.resolved files paths := by
  -- the absent files may be left out before, as they give nothing
  have hfilter : ∀ paths : List String, (paths.filter (isPresent files)).filterMap
      (n.givenBy? files) = paths.filterMap (n.givenBy? files) := by
    intro paths
    rw [List.filterMap_filter]
    congr 1
    funext path
    split
    · rfl
    · rename_i habsent
      exact (givenBy?_of_absent (by simpa [isPresent] using habsent) n).symm
  rw [resolved, resolved, ← hfilter paths', h, hfilter]

/-- What is laid over itself stays as it is. -/
theorem SettingName.resolved_replicate (n : SettingName) (count : Nat) :
    n.resolved files (List.replicate (count + 1) paths).flatten = n.resolved files paths := by
  have hlast : (((List.replicate (count + 1) paths).flatten).filterMap
      (n.givenBy? files)).getLast? = (paths.filterMap (n.givenBy? files)).getLast? := by
    induction count with
    | zero => simp
    | succ count ih =>
      rw [List.replicate_succ, List.flatten_cons, List.filterMap_append, List.getLast?_append, ih,
        Option.or_self]
  rw [resolved, resolved, hlast]

/-- Whether all files fit does not depend on those that are absent. -/
theorem fitsAt_congr {paths' : List String} (hfits : ∀ path ∈ paths, FitsAt files path)
    (h : paths'.filter (isPresent files) = paths.filter (isPresent files)) :
    ∀ path ∈ paths', FitsAt files path := by
  intro path hpath
  by_cases hpresent : isPresent files path = true
  · have hmem : path ∈ paths.filter (isPresent files) := h ▸ List.mem_filter.2 ⟨hpath, hpresent⟩
    exact hfits path (List.mem_filter.1 hmem).1
  · exact .inl (by simpa [isPresent] using hpresent)

/-- Files that fit do so when they are named many times. -/
theorem fitsAt_replicate (hfits : ∀ path ∈ paths, FitsAt files path) (count : Nat) :
    ∀ path ∈ (List.replicate count paths).flatten, FitsAt files path := by
  intro path hpath
  obtain ⟨own, hown, hpath⟩ := List.mem_flatten.1 hpath
  rw [List.eq_of_mem_replicate hown] at hpath
  exact hfits path hpath

/-! ## Loading setting by setting -/

/-- Where every path stands for no file or for one that fits, and no variable is for a setting, the
    settings load, and each of them is what the last file that gives it says, or its default. A
    plain TOML file fits.

    So files that are not there may stand anywhere, and the files may be gone through once more. A
    variable changes the one setting that it is for, if its text can be read as one. -/
theorem load_setting_by_setting (files : Files) (paths : List String)
    (hfits : ∀ path ∈ paths, FitsAt files path) (before after : List (String × String))
    (henv : ∀ p ∈ before ++ after, variablePath? p.1 = none) :
    (∀ path, PlainAt files path → FitsAt files path) ∧
    (∀ (n : SettingName) (a : n.Value), n.setting.read? (n.encode a) = some a) ∧
    LoadsAs files (before ++ after) paths (.ok (settingsOf fun n => n.resolved files paths)) ∧
    (∀ paths', paths'.filter (isPresent files) = paths.filter (isPresent files) →
      LoadsAs files (before ++ after) paths' (load files (before ++ after) paths)) ∧
    (∀ count, LoadsAs files (before ++ after) (List.replicate (count + 1) paths).flatten
      (load files (before ++ after) paths)) ∧
    ∀ (n : SettingName) (name : String), variablePath? name = some n.setting.path →
      ∀ text, LoadsAs files (before ++ (name, text) :: after) paths
        (match n.setting.read? (variableValue n.setting.path text) with
        | some a => .ok (settingsOf (Function.update (fun m => m.resolved files paths) n a))
        | none => .error (.configuration "Failed to deserialize config")) := by
  have hload := loadsAs_resolved hfits henv
  refine ⟨fun path => fitsAt_of_plainAt, SettingName.read?_encode, hload, ?_, ?_, ?_⟩
  · intro paths' h
    have hload' := loadsAs_resolved (fitsAt_congr hfits h) henv
    simp only [SettingName.resolved_congr h] at hload'
    exact hload.asWritten ▸ hload'
  · intro count
    have hload' := loadsAs_resolved (fitsAt_replicate hfits (count + 1)) henv
    simp only [SettingName.resolved_replicate] at hload'
    exact hload.asWritten ▸ hload'
  · intro n name hname text
    -- a variable is one layer more, whatever the order within those of the files
    refine loadsAs_of_layers hfits fun layers hdefinite hlast => ?_
    rw [loadLayers_variable hdefinite henv hname]
    simp only [hlast]
    cases n.setting.read? (variableValue n.setting.path text) <;> rfl

/-- Three files, one of them without the ending of its name, that give some settings each, in tables
    and under paths, and two that are not there; and a variable for the level. -/
theorem load_setting_by_setting_overlays :
    let files : Files := { root := .folder [
      ("default.toml", .file ("title = 'forum'\n[plugins]\nproject_name = 'board'\n" ++
        "auto_load = false\ndisabled = ['portal']\n[logging]\nlevel = 'debug'\n" ++
        "format = 'json'\n").toUTF8),
      ("site.toml", .file ("'logging.level' = 'warn'\n[plugins]\n" ++
        "directory = '/srv'\n").toUTF8),
      ("last.toml", .file "[plugins]\ndisabled = []\nextra = 1\n[logging]\n".toUTF8)] }
    let paths := ["default.toml", "absent.toml", "site", "last.toml"]
    let plugins : PluginSettings :=
      { projectName := "board", directory := "/srv", autoLoad := false, disabled := [] }
    PlainAt files "default.toml" ∧ ¬PlainAt files "site" ∧
      (∀ path ∈ paths, FitsAt files path) ∧
      (∀ p ∈ [("HOME", "/root"), ("FLASK", "1")], variablePath? p.1 = none) ∧
      LoadsAs files [("HOME", "/root"), ("FLASK", "1")] paths
        (.ok { plugins, logging := { level := "warn", format := "json" } }) ∧
      LoadsAs files [("HOME", "/root"), ("FLASK", "1")] ("other.toml" :: paths)
        (.ok { plugins, logging := { level := "warn", format := "json" } }) ∧
      LoadsAs files [("HOME", "/root"), ("FLASKBB__LOGGING__LEVEL", "error"), ("FLASK", "1")] paths
        (.ok { plugins, logging := { level := "error", format := "json" } }) := by
  intro files paths plugins
  have henv : ∀ p ∈ [("HOME", "/root"), ("FLASK", "1")], variablePath? p.1 = none := by
    decide +kernel
  -- what the files give is computed, all at once so that each of them is read once
  obtain ⟨hplain, hfits, hresolved, hupdated⟩ :
      (PlainAt files "default.toml" ∧ ¬PlainAt files "site") ∧
      (∀ path ∈ paths, FitsAt files path) ∧
      (settingsOf fun n => n.resolved files paths) =
        { plugins, logging := { level := "warn", format := "json" } } ∧
      settingsOf (Function.update (fun m => m.resolved files paths) .level "error") =
        { plugins, logging := { level := "error", format := "json" } } := by decide +kernel
  obtain ⟨-, -, hload, habsent, -, hvariable⟩ :=
    load_setting_by_setting files paths hfits [("HOME", "/root")] [("FLASK", "1")] henv
  rw [hresolved] at hload
  have habsent := habsent ("other.toml" :: paths) (by decide +kernel)
  rw [hload.asWritten] at habsent
  refine ⟨hplain.1, hplain.2, hfits, henv, hload, habsent, ?_⟩
  have hlevel := hvariable .level "FLASKBB__LOGGING__LEVEL" (by decide +kernel) "error"
  have hread : SettingName.level.setting.read?
      (variableValue SettingName.level.setting.path "error") = some "error" := by decide +kernel
  simp only [hread] at hlevel
  rw [hupdated] at hlevel
  exact hlevel

/-- A key without a table gives a setting all the same if it is a path to it, and one that makes an
    array of a table of settings keeps them from loading. -/
theorem keys_taken_for_paths :
    let given : Files :=
      { root := .folder [("c.toml", .file "\"logging[ 0 ]\" = \"debug\"\n".toUTF8)] }
    let broken : Files :=
      { root := .folder [("c.toml", .file "\"logging[ 1 ]\" = \"json\"\n".toUTF8)] }
    ((layer? given "c.toml").map Keyed.keys = some ["logging[ 0 ]"] ∧
      load given [] ["c.toml"] = .ok { logging := { level := "debug" } } ∧
      load given [] ["c.toml"] ≠ .ok {}) ∧
    (layer? broken "c.toml").map Keyed.keys = some ["logging[ 1 ]"] ∧
      load broken [] ["c.toml"] = .error (.configuration "Failed to deserialize config") := by
  decide +kernel

end Plugboard.Config
