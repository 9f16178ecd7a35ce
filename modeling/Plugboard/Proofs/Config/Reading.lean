import Plugboard.Config.Reading
import Plugboard.Proofs.Config.Tree

/-!
# Settings of trees that agree but for one field

A table of settings that loads loads with any of its fields given anew, if the value given can be
read, and then only that field is another (`pluginSettings?_of_given`, `loggingSettings?_of_given`).
The same goes for all settings (`settings?_of_plugins`, `settings?_of_logging`), but that a table
that was written as an array has only the field that is given and the defaults.
-/

namespace Plugboard.Config

variable {α : Type} {key : String} {v : Json} {fields fields' : List (String × Json)}

/-! ## Fields -/

/-- The value of a field that is read anew if its name is the key that is given a value. -/
def fieldWith? (key : String) (v : Json) (name : String) (read? : Json → Option α) (old : α) :
    Option α :=
  if name = key then read? v else some old

/-- The field that is given is read from the value given. -/
theorem Given.fieldOr_self (h : Given key v fields fields') (default : α) (i : Nat)
    (read? : Json → Option α) : fieldOr default (.obj fields') i key read? = read? v := by
  simp [fieldOr, h.self]

/-- Every other field is read as before. -/
theorem Given.fieldOr_of_ne (h : Given key v fields fields') {name : String} (hname : name ≠ key)
    (default : α) (i : Nat) (read? : Json → Option α) :
    fieldOr default (.obj fields') i name read? = fieldOr default (.obj fields) i name read? := by
  simp [fieldOr, h.others name hname]

/-- A field that could be read is read from the value given if it is that field, or as before. -/
theorem Given.fieldOr_eq (h : Given key v fields fields') {name : String} {default old : α}
    {i : Nat} {read? : Json → Option α}
    (hold : fieldOr default (.obj fields) i name read? = some old) :
    fieldOr default (.obj fields') i name read? = fieldWith? key v name read? old := by
  unfold fieldWith?
  split
  · rename_i hname
    rw [hname]
    exact h.fieldOr_self default i read?
  · rename_i hname
    rw [h.fieldOr_of_ne hname, hold]

/-! ## Tables -/

/-- The settings of the plugins are read field by field. -/
theorem pluginSettings?_eq_some_iff {p : PluginSettings} :
    pluginSettings? v = some p ↔
      fieldOr "flaskbb" v 0 "project_name" asText? = some p.projectName ∧
        fieldOr "flaskbb_plugins" v 1 "entry_point_group" asText? = some p.entryPointGroup ∧
        fieldOr "./plugins" v 2 "directory" asText? = some p.directory ∧
        fieldOr true v 3 "auto_load" asBool? = some p.autoLoad ∧
        fieldOr [] v 4 "disabled" asTexts? = some p.disabled := by
  cases p
  simp only [pluginSettings?, Option.bind_eq_bind, Option.bind_eq_some_iff, Option.pure_def,
    Option.some.injEq, PluginSettings.mk.injEq]
  constructor
  · rintro ⟨_, h0, _, h1, _, h2, _, h3, _, h4, rfl, rfl, rfl, rfl, rfl⟩
    exact ⟨h0, h1, h2, h3, h4⟩
  · rintro ⟨h0, h1, h2, h3, h4⟩
    exact ⟨_, h0, _, h1, _, h2, _, h3, _, h4, rfl, rfl, rfl, rfl, rfl⟩

/-- Settings with the one under a key read from a value. -/
def pluginSettingsWith? (key : String) (v : Json) (p : PluginSettings) : Option PluginSettings := do
  return {
    projectName := ← fieldWith? key v "project_name" asText? p.projectName
    entryPointGroup := ← fieldWith? key v "entry_point_group" asText? p.entryPointGroup
    directory := ← fieldWith? key v "directory" asText? p.directory
    autoLoad := ← fieldWith? key v "auto_load" asBool? p.autoLoad
    disabled := ← fieldWith? key v "disabled" asTexts? p.disabled }

/-- Read anew, a setting of plugins is what the value reads as. -/
theorem map_pluginSettingsWith? (v : Json) (base : PluginSettings) :
    (pluginSettingsWith? "project_name" v base).map (·.projectName) = asText? v ∧
      (pluginSettingsWith? "entry_point_group" v base).map (·.entryPointGroup) = asText? v ∧
      (pluginSettingsWith? "directory" v base).map (·.directory) = asText? v ∧
      (pluginSettingsWith? "auto_load" v base).map (·.autoLoad) = asBool? v ∧
      (pluginSettingsWith? "disabled" v base).map (·.disabled) = asTexts? v := by
  -- the other fields are there already, so what is left is to read the value
  simp only [pluginSettingsWith?, fieldWith?, String.reduceEq, ↓reduceIte, Option.bind_eq_bind,
    Option.bind_some, Option.map_bind]
  exact ⟨Option.bind_fun_some _, Option.bind_fun_some _, Option.bind_fun_some _,
    Option.bind_fun_some _, Option.bind_fun_some _⟩

/-- Where a table of plugin settings loads, it loads with one of them given anew as well, if the
    value given can be read. -/
theorem pluginSettings?_of_given (h : Given key v fields fields') {p : PluginSettings}
    (hp : pluginSettings? (.obj fields) = some p) :
    pluginSettings? (.obj fields') = pluginSettingsWith? key v p := by
  obtain ⟨h0, h1, h2, h3, h4⟩ := pluginSettings?_eq_some_iff.1 hp
  rw [pluginSettings?, h.fieldOr_eq h0, h.fieldOr_eq h1, h.fieldOr_eq h2, h.fieldOr_eq h3,
    h.fieldOr_eq h4, pluginSettingsWith?]

/-- So are those of the logging. -/
theorem loggingSettings?_eq_some_iff {l : LoggingSettings} :
    loggingSettings? v = some l ↔
      fieldOr "info" v 0 "level" asText? = some l.level ∧
        fieldOr "pretty" v 1 "format" asText? = some l.format := by
  cases l
  simp only [loggingSettings?, Option.bind_eq_bind, Option.bind_eq_some_iff, Option.pure_def,
    Option.some.injEq, LoggingSettings.mk.injEq]
  constructor
  · rintro ⟨_, h0, _, h1, rfl, rfl⟩
    exact ⟨h0, h1⟩
  · rintro ⟨h0, h1⟩
    exact ⟨_, h0, _, h1, rfl, rfl⟩

/-- Settings with the one under a key read from a value. -/
def loggingSettingsWith? (key : String) (v : Json) (l : LoggingSettings) :
    Option LoggingSettings := do
  return {
    level := ← fieldWith? key v "level" asText? l.level
    format := ← fieldWith? key v "format" asText? l.format }

/-- Read anew, a setting of logging is what the value reads as. -/
theorem map_loggingSettingsWith? (v : Json) (base : LoggingSettings) :
    (loggingSettingsWith? "level" v base).map (·.level) = asText? v ∧
      (loggingSettingsWith? "format" v base).map (·.format) = asText? v := by
  simp only [loggingSettingsWith?, fieldWith?, String.reduceEq, ↓reduceIte, Option.bind_eq_bind,
    Option.bind_some, Option.map_bind]
  exact ⟨Option.bind_fun_some _, Option.bind_fun_some _⟩

/-- Where a table of logging settings loads, it loads with one of them given anew as well, if the
    value given can be read. -/
theorem loggingSettings?_of_given (h : Given key v fields fields') {l : LoggingSettings}
    (hl : loggingSettings? (.obj fields) = some l) :
    loggingSettings? (.obj fields') = loggingSettingsWith? key v l := by
  obtain ⟨h0, h1⟩ := loggingSettings?_eq_some_iff.1 hl
  rw [loggingSettings?, h.fieldOr_eq h0, h.fieldOr_eq h1, loggingSettingsWith?]

/-! ## All settings -/

/-- All settings are read table by table. -/
theorem settings?_eq_some_iff {c : Settings} :
    settings? v = some c ↔
      fieldOr {} v 0 "plugins" pluginSettings? = some c.plugins ∧
        fieldOr {} v 1 "logging" loggingSettings? = some c.logging := by
  cases c
  simp only [settings?, Option.bind_eq_bind, Option.bind_eq_some_iff, Option.pure_def,
    Option.some.injEq, Settings.mk.injEq]
  constructor
  · rintro ⟨_, h0, _, h1, rfl, rfl⟩
    exact ⟨h0, h1⟩
  · rintro ⟨h0, h1⟩
    exact ⟨_, h0, _, h1, rfl, rfl⟩

/-- Where a table of settings loads, so do its fields alone; an array has none. -/
theorem exists_inner {ρ : Type} {default : ρ} {table : String} {i : Nat} {read? : Json → Option ρ}
    {r : ρ} (hdefault : (read? (.obj [])).isSome = true)
    (h : fieldOr default (.obj fields) i table read? = some r) :
    ∃ base, read? (.obj (inner table fields)) = some base := by
  rw [← Option.isSome_iff_exists, inner]
  simp only [fieldOr] at h
  -- a table that is not there, or is an array, has no fields of its own to read
  cases htable : Keyed.get? table fields with
  | none => exact hdefault
  | some v =>
    rw [htable] at h
    cases v with
    | obj own => exact Option.isSome_iff_exists.2 ⟨r, h⟩
    | _ => exact hdefault

/-- With a field of the plugins given anew, only their settings are read anew. -/
theorem settings?_of_plugins {c : Settings} (h : GivenAt "plugins" key v fields fields')
    (hc : settings? (.obj fields) = some c) :
    ∃ base : PluginSettings, settings? (.obj fields') =
      (pluginSettingsWith? key v base).map fun p => { c with plugins := p } := by
  obtain ⟨into, hinto, hfields⟩ := h
  obtain ⟨hplugins, hlogging⟩ := settings?_eq_some_iff.1 hc
  obtain ⟨base, hbase⟩ := exists_inner rfl hplugins
  refine ⟨base, ?_⟩
  rw [settings?, hfields.fieldOr_self, pluginSettings?_of_given hinto hbase,
    hfields.fieldOr_of_ne (by decide), hlogging]
  cases pluginSettingsWith? key v base <;> rfl

/-- With a field of the logging given anew, only its settings are. -/
theorem settings?_of_logging {c : Settings} (h : GivenAt "logging" key v fields fields')
    (hc : settings? (.obj fields) = some c) :
    ∃ base : LoggingSettings, settings? (.obj fields') =
      (loggingSettingsWith? key v base).map fun l => { c with logging := l } := by
  obtain ⟨into, hinto, hfields⟩ := h
  obtain ⟨hplugins, hlogging⟩ := settings?_eq_some_iff.1 hc
  obtain ⟨base, hbase⟩ := exists_inner rfl hlogging
  refine ⟨base, ?_⟩
  rw [settings?, hfields.fieldOr_self, loggingSettings?_of_given hinto hbase,
    hfields.fieldOr_of_ne (by decide), hplugins]
  cases loggingSettingsWith? key v base <;> rfl

end Plugboard.Config
