import Plugboard.Proofs.Config.Sections
import Plugboard.Proofs.Json.Reading
import Plugboard.Proofs.Json.Record

/-!
# Settings in serialized form

A JSON value spells settings of which some are left out, alone or with the whole table that holds
them, if its objects have what is kept, in any order and among fields that no setting is (`Spells`).
What it decodes to has these settings, and the defaults of the others (`Spells.ofJson_eq`).
-/

namespace Plugboard.Config

open Json

/-! ## Tables of settings -/

/-- The settings of a table. -/
def settingsIn (table : String) : List SettingName :=
  SettingName.all.filter fun n => n.setting.table = table

/-- The settings of a table are those that stand in it. -/
theorem mem_settingsIn {n : SettingName} {table : String} :
    n ∈ settingsIn table ↔ n.setting.table = table := by
  rw [settingsIn, List.mem_filter, decide_eq_true_eq]
  exact and_iff_right n.mem_all

/-- The settings of a table have different keys. -/
theorem nodup_keys (table : String) : ((settingsIn table).map (·.setting.key)).Nodup := by
  have hnames : (settingsIn table).Nodup := List.Nodup.filter _ (by decide)
  refine hnames.map_on fun m hm n hn hkey => SettingName.eq_of_place ?_ hkey
  rw [mem_settingsIn.1 hm, mem_settingsIn.1 hn]

/-- The settings of a table of which only some are kept, as they are written down. -/
def written (c : Settings) (kept : SettingName → Bool) (table : String) : List (String × Json) :=
  ((settingsIn table).filter kept).map fun n => (n.setting.key, n.encode (n.setting.get c))

/-- No field of a table is written twice. -/
theorem nodup_written (c : Settings) (kept : SettingName → Bool) (table : String) :
    ((written c kept table).map (·.1)).Nodup := by
  rw [written, List.map_map]
  exact (nodup_keys table).sublist (List.filter_sublist.map _)

/-- What is written of a table are fields of its settings. -/
theorem mem_keys_of_written (c : Settings) (kept : SettingName → Bool) (table : String) :
    ∀ p ∈ written c kept table, p.1 ∈ (settingsIn table).map (·.setting.key) :=
  List.forall_mem_map.2 fun _ hn => List.mem_map_of_mem (List.mem_of_mem_filter hn)

/-- The value of a setting that is kept, and the default of one that is not. -/
def keptOr (c : Settings) (kept : SettingName → Bool) (n : SettingName) : n.Value :=
  if kept n then n.setting.get c else n.default

variable {c : Settings} {kept : SettingName → Bool} {fields : List (String × Json)}

/-- Fields hold what is kept of the settings of a table. -/
abbrev Holds (c : Settings) (kept : SettingName → Bool) (table : String)
    (fields : List (String × Json)) : Prop :=
  Among ((settingsIn table).map (·.setting.key)) (written c kept table) fields

/-- A setting is read from the fields of its table exactly if it was kept. -/
theorem Holds.field?_eq {table : String} (h : Holds c kept table fields) {n : SettingName}
    (hn : n.setting.table = table) {decode : Json → Decoded n.Value}
    (hdecode : ∀ a, decode (n.encode a) = .ok a) :
    field? fields n.setting.key decode =
      .ok (if kept n then some (n.setting.get c) else none) :=
  Among.field?_kept h (nodup_keys table) (mem_settingsIn.2 hn) (hdecode _)

/-- A value that may be left out is there, or the default is. -/
theorem getD_ite {α : Type} (b : Bool) (a d : α) :
    (if b then some a else none).getD d = if b then a else d := by
  cases b <;> rfl

/-- The table of the plugins decodes to the settings kept in it. -/
theorem Holds.pluginSettings_eq (h : Holds c kept "plugins" fields) :
    PluginSettings.ofJson (.obj fields) = .ok (settingsOf (keptOr c kept)).plugins := by
  have hproject : field? fields "project_name" asText =
      .ok (if kept .projectName then some c.plugins.projectName else none) :=
    h.field?_eq (n := .projectName) rfl fun _ => rfl
  have hgroup : field? fields "entry_point_group" asText =
      .ok (if kept .entryPointGroup then some c.plugins.entryPointGroup else none) :=
    h.field?_eq (n := .entryPointGroup) rfl fun _ => rfl
  have hdirectory : field? fields "directory" asText =
      .ok (if kept .directory then some c.plugins.directory else none) :=
    h.field?_eq (n := .directory) rfl fun _ => rfl
  have hautoLoad : field? fields "auto_load" asBool =
      .ok (if kept .autoLoad then some c.plugins.autoLoad else none) :=
    h.field?_eq (n := .autoLoad) rfl fun _ => rfl
  have hdisabled : field? fields "disabled" (asList asText) =
      .ok (if kept .disabled then some c.plugins.disabled else none) :=
    h.field?_eq (n := .disabled) rfl asList_texts
  -- with these the record is decoded field by field
  rw [PluginSettings.ofJson, hautoLoad, hdirectory, hdisabled, hgroup, hproject]
  refine congrArg Except.ok ?_
  simp only [getD_ite]
  rfl

/-- So does the table of the logging. -/
theorem Holds.loggingSettings_eq (h : Holds c kept "logging" fields) :
    LoggingSettings.ofJson (.obj fields) = .ok (settingsOf (keptOr c kept)).logging := by
  have hlevel : field? fields "level" asText =
      .ok (if kept .level then some c.logging.level else none) :=
    h.field?_eq (n := .level) rfl fun _ => rfl
  have hformat : field? fields "format" asText =
      .ok (if kept .format then some c.logging.format else none) :=
    h.field?_eq (n := .format) rfl fun _ => rfl
  rw [LoggingSettings.ofJson, hformat, hlevel]
  refine congrArg Except.ok ?_
  simp only [getD_ite]
  rfl

/-! ## All settings -/

/-- A value spells settings of which only some are kept, in tables of which only some are kept. Its
    objects may have other fields, which no setting is. -/
inductive Spells (c : Settings) (keptTable : String → Bool) (kept : SettingName → Bool) :
    Json → Prop where
  | intro {tables : String → List (String × Json)} {fields : List (String × Json)}
    (htables : ∀ table ∈ sections, Holds c kept table (tables table))
    (hfields : Among sections
      ((sections.filter keptTable).map fun table => (table, .obj (tables table))) fields) :
    Spells c keptTable kept (.obj fields)

/-- The settings of the plugins depend on the values in their table only. -/
theorem plugins_settingsOf_congr {f g : (n : SettingName) → n.Value}
    (h : ∀ n, n.setting.table = "plugins" → f n = g n) :
    (settingsOf f).plugins = (settingsOf g).plugins := by
  simp only [settingsOf, h .projectName rfl, h .entryPointGroup rfl, h .directory rfl,
    h .autoLoad rfl, h .disabled rfl]

/-- Those of the logging depend on the values in theirs only. -/
theorem logging_settingsOf_congr {f g : (n : SettingName) → n.Value}
    (h : ∀ n, n.setting.table = "logging" → f n = g n) :
    (settingsOf f).logging = (settingsOf g).logging := by
  simp only [settingsOf, h .level rfl, h .format rfl]

variable {keptTable : String → Bool}

/-- In a table that is kept the settings are as they are kept there, in another they have their
    defaults. -/
theorem keptOr_of_table {table : String} {n : SettingName} (hn : n.setting.table = table) :
    keptOr c (fun n => keptTable n.setting.table && kept n) n =
      if keptTable table then keptOr c kept n else n.default := by
  rw [keptOr, hn]
  cases keptTable table <;> rfl

/-- To leave a table out is to leave out all settings in it. -/
theorem settingsOf_keptOr : settingsOf (keptOr c fun n => keptTable n.setting.table && kept n) =
    { plugins := if keptTable "plugins" then (settingsOf (keptOr c kept)).plugins else {}
      logging := if keptTable "logging" then (settingsOf (keptOr c kept)).logging else {} } := by
  refine congrArg₂ Settings.mk ?_ ?_
  · refine (plugins_settingsOf_congr fun n hn => keptOr_of_table hn).trans ?_
    cases keptTable "plugins" <;> rfl
  · refine (logging_settingsOf_congr fun n hn => keptOr_of_table hn).trans ?_
    cases keptTable "logging" <;> rfl

/-- What spells some settings decodes to these, and to the defaults of the rest. -/
theorem Spells.ofJson_eq {v : Json} (h : Spells c keptTable kept v) : Settings.ofJson v =
    .ok (settingsOf (keptOr c fun n => keptTable n.setting.table && kept n)) := by
  -- the tables among the fields are read first, and then the settings in each of them
  obtain @⟨tables, fields, htables, hfields⟩ := h
  have hfields : Among (sections.map id)
      ((sections.filter keptTable).map fun table => (id table, .obj (tables table))) fields := by
    rw [List.map_id]
    exact hfields
  have hplugins : field? fields "plugins" PluginSettings.ofJson =
      .ok (if keptTable "plugins" then some (settingsOf (keptOr c kept)).plugins else none) :=
    hfields.field?_kept (by decide) (by decide) (htables "plugins" (by decide)).pluginSettings_eq
  have hlogging : field? fields "logging" LoggingSettings.ofJson =
      .ok (if keptTable "logging" then some (settingsOf (keptOr c kept)).logging else none) :=
    hfields.field?_kept (by decide) (by decide) (htables "logging" (by decide)).loggingSettings_eq
  rw [Settings.ofJson, hlogging, hplugins, settingsOf_keptOr]
  refine congrArg Except.ok ?_
  simp only [getD_ite]

/-! ## Serialized settings -/

/-- Settings in serialized form spell themselves, with nothing left out. -/
theorem spells_toJson (c : Settings) : Spells c (fun _ => true) (fun _ => true) c.toJson :=
  @Spells.intro c _ _ (written c fun _ => true) _
    (fun table _ => among_self (mem_keys_of_written c _ table))
    (among_self (List.forall_mem_map.2 fun _ htable => List.mem_of_mem_filter htable))

/-- In canonical form the settings are two tables with their fields in order. -/
theorem canonical_toJson (c : Settings) : canonical c.toJson =
    object [("plugins", object (written c (fun _ => true) "plugins")),
      ("logging", object (written c (fun _ => true) "logging"))] := by
  have hdisabled := canonical_texts c.plugins.disabled
  simp only [Settings.toJson, PluginSettings.toJson, LoggingSettings.toJson, canonical,
    canonicalFields, hdisabled]
  rfl

/-- So do settings in canonical form: only the order of the fields is another. -/
theorem spells_canonical (c : Settings) :
    Spells c (fun _ => true) (fun _ => true) (canonical c.toJson) := by
  rw [canonical_toJson]
  refine @Spells.intro c _ _ (fun table => sortFields (written c (fun _ => true) table)) _
    (fun table _ => among_sortFields (nodup_written c _ table) (mem_keys_of_written c _ table))
    (among_sortFields ?_ ?_)
  · rw [List.map_map]
    exact (by decide : sections.Nodup)
  · exact List.forall_mem_map.2 fun _ htable => List.mem_of_mem_filter htable

/-- Settings in serialized form are three levels deep. -/
theorem plain_toJson (room : Nat) (c : Settings) : Plain (room + 3) c.toJson := by
  refine .obj ?_
  simp only [List.forall_mem_cons, List.not_mem_nil, false_imp_iff, implies_true, and_true]
  constructor
  · refine .obj ?_
    simp [Plain.str, Plain.bool, Plain.texts]
  · refine .obj ?_
    simp [Plain.str]

/-- Settings that are written as text are read again. -/
theorem read?_compact_toJson (c : Settings) :
    (read? (compact c.toJson)).map Settings.ofJson = some (.ok c) := by
  rw [read?_compact (plain_toJson 124 c), Option.map_some, (spells_canonical c).ofJson_eq]
  rfl

end Plugboard.Config
