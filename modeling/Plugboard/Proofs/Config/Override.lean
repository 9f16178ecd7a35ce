import Plugboard.Config.Load
import Plugboard.Proofs.Config.Environment
import Plugboard.Proofs.Config.Reading

/-!
# Settings given by variables

A `Setting` is a field of a table of settings that a variable is for: where its value stands in the
tree, and how it is read from there. Whatever files and other variables give, if they can be loaded,
the setting is what the text of its variable reads as (`Setting.RestValid.exists_load`).

`load_with_variable` spells this out for the settings that are texts and for the list of disabled
plugins: the text of a variable is taken for a scalar wherever it spells one.
`variables_taken_for_numbers` shows what this does to a name that looks like a number.
-/

namespace Plugboard.Config

open Text

/-! ## The tree that files and variables give -/

/-- A file laid over a table leaves a table, if it can be read. -/
theorem exists_addFile? {files : Files} {fields : List (String × Json)} {path : String}
    {tree : Json} (h : addFile? files (.obj fields) path = some tree) : ∃ out, tree = .obj out := by
  unfold addFile? at h
  split at h
  · exact ⟨fields, (Option.some.inj h).symm⟩
  · obtain ⟨layer, -, rfl⟩ := Option.map_eq_some_iff.1 h
    exact exists_addLayer layer fields

/-- So do many files. -/
theorem exists_addFiles {files : Files} {paths : List String} {fields : List (String × Json)}
    {tree : Json} (h : paths.foldlM (addFile? files) (.obj fields) = some tree) :
    ∃ out, tree = .obj out := by
  induction paths generalizing fields with
  | nil => exact ⟨fields, (Option.some.inj h).symm⟩
  | cons path rest ih =>
    rw [List.foldlM_cons, Option.bind_eq_bind, Option.bind_eq_some_iff] at h
    obtain ⟨next, hnext, hrest⟩ := h
    obtain ⟨out, rfl⟩ := exists_addFile? hnext
    exact ih hrest

/-- What loads is read from a tree to which the variables come last. -/
theorem exists_tree {files : Files} {env : List (String × String)} {paths : List String}
    {c : Settings} (h : load files env paths = .ok c) :
    ∃ fields, paths.foldlM (addFile? files) (.obj []) = some (.obj fields) := by
  unfold load at h
  split at h
  · exact nomatch h
  · rename_i tree htree
    obtain ⟨fields, rfl⟩ := exists_addFiles htree
    exact ⟨fields, htree⟩

/-- After the files the variables are laid over what they gave, and all is read. -/
theorem load_of_tree {files : Files} {paths : List String} {fields : List (String × Json)}
    (h : paths.foldlM (addFile? files) (.obj []) = some (.obj fields))
    (env : List (String × String)) :
    load files env paths = (settings? (addLayer (.obj fields) (layerOfVariables env))).elim
      (.error (.configuration "Failed to deserialize config")) .ok := by
  simp only [load, h]
  cases settings? (addLayer (.obj fields) (layerOfVariables env)) <;> rfl

/-- Loading succeeds exactly if the tree can be read in the end. -/
theorem load_eq_ok_iff {files : Files} {paths : List String} {fields : List (String × Json)}
    (h : paths.foldlM (addFile? files) (.obj []) = some (.obj fields))
    {env : List (String × String)} {c : Settings} :
    load files env paths = .ok c ↔
      settings? (addLayer (.obj fields) (layerOfVariables env)) = some c := by
  rw [load_of_tree h]
  cases settings? (addLayer (.obj fields) (layerOfVariables env)) with
  | none => exact iff_of_false nofun nofun
  | some c' => simp

/-! ## Settings -/

/-- A setting that a variable is for. -/
structure Setting (α : Type) where
  /-- The variable. -/
  variableName : String
  /-- The table that it stands in. -/
  table : String
  /-- Its key there. -/
  key : String
  /-- How it is read from a configuration value. -/
  read? : Json → Option α
  /-- Its value. -/
  get : Settings → α
  path_eq : variablePath? variableName = some (table ++ "." ++ key)
  steps_eq : stepsOf (table ++ "." ++ key) = [.field table, .field key]
  /-- A tree that loads does so with the setting given anew if the value given can be read, and the
      setting is then what is read. -/
  map_get : ∀ {v : Json} {fields fields' : List (String × Json)} {c : Settings},
    GivenAt table key v fields fields' → settings? (.obj fields) = some c →
      (settings? (.obj fields')).map get = read? v

namespace Setting

variable {α : Type}

/-- A setting in the table of plugins. -/
def ofPlugins (variableName key : String) (read? : Json → Option α) (get : PluginSettings → α)
    (path_eq : variablePath? variableName = some ("plugins" ++ "." ++ key))
    (steps_eq : stepsOf ("plugins" ++ "." ++ key) = [.field "plugins", .field key])
    (hkey : ∀ v base, (pluginSettingsWith? key v base).map get = read? v) : Setting α where
  variableName := variableName
  table := "plugins"
  key := key
  read? := read?
  get c := get c.plugins
  path_eq := path_eq
  steps_eq := steps_eq
  map_get := by
    intro v fields fields' c h hc
    obtain ⟨base, hbase⟩ := settings?_of_plugins h hc
    rw [hbase, Option.map_map]
    exact hkey v base

/-- A setting in the table of logging. -/
def ofLogging (variableName key : String) (read? : Json → Option α) (get : LoggingSettings → α)
    (path_eq : variablePath? variableName = some ("logging" ++ "." ++ key))
    (steps_eq : stepsOf ("logging" ++ "." ++ key) = [.field "logging", .field key])
    (hkey : ∀ v base, (loggingSettingsWith? key v base).map get = read? v) : Setting α where
  variableName := variableName
  table := "logging"
  key := key
  read? := read?
  get c := get c.logging
  path_eq := path_eq
  steps_eq := steps_eq
  map_get := by
    intro v fields fields' c h hc
    obtain ⟨base, hbase⟩ := settings?_of_logging h hc
    rw [hbase, Option.map_map]
    exact hkey v base

/-- The tag that hook specifications must carry. -/
def projectName : Setting String :=
  .ofPlugins "FLASKBB__PLUGINS__PROJECT_NAME" "project_name" asText? (·.projectName)
    (by decide +kernel) (by decide +kernel) fun v base => (map_pluginSettingsWith? v base).1

/-- The group of the entry points that are plugins. -/
def entryPointGroup : Setting String :=
  .ofPlugins "FLASKBB__PLUGINS__ENTRY_POINT_GROUP" "entry_point_group" asText? (·.entryPointGroup)
    (by decide +kernel) (by decide +kernel) fun v base => (map_pluginSettingsWith? v base).2.1

/-- The folder in which distributions are installed. -/
def directory : Setting String :=
  .ofPlugins "FLASKBB__PLUGINS__DIRECTORY" "directory" asText? (·.directory)
    (by decide +kernel) (by decide +kernel) fun v base => (map_pluginSettingsWith? v base).2.2.1

/-- Whether plugins are loaded at the start. -/
def autoLoad : Setting Bool :=
  .ofPlugins "FLASKBB__PLUGINS__AUTO_LOAD" "auto_load" asBool? (·.autoLoad)
    (by decide +kernel) (by decide +kernel) fun v base => (map_pluginSettingsWith? v base).2.2.2.1

/-- The names of the plugins that are blocked. -/
def disabled : Setting (List String) :=
  .ofPlugins "FLASKBB__PLUGINS__DISABLED" "disabled" asTexts? (·.disabled)
    (by decide +kernel) (by decide +kernel) fun v base => (map_pluginSettingsWith? v base).2.2.2.2

/-- The least level that is logged. -/
def level : Setting String :=
  .ofLogging "FLASKBB__LOGGING__LEVEL" "level" asText? (·.level)
    (by decide +kernel) (by decide +kernel) fun v base => (map_loggingSettingsWith? v base).1

/-- The form of a log line. -/
def format : Setting String :=
  .ofLogging "FLASKBB__LOGGING__FORMAT" "format" asText? (·.format)
    (by decide +kernel) (by decide +kernel) fun v base => (map_loggingSettingsWith? v base).2

/-- The settings that are texts. -/
def texts : List (Setting String) := [projectName, entryPointGroup, directory, level, format]

/-- The path of a setting. -/
def path (x : Setting α) : String := x.table ++ "." ++ x.key

/-- Files and variables are in order but for the one for a setting: the other variables are for
    other settings, and there is a text for the variable with which the settings load, or they load
    without it. -/
structure RestValid (x : Setting α) (files : Files) (paths : List String)
    (before after : List (String × String)) : Prop where
  apart : ∀ p ∈ before ++ after, ∀ path ∈ variablePath? p.1, Apart (stepsOf x.path) (stepsOf path)
  loads : (∃ c, load files (before ++ after) paths = .ok c) ∨
    ∃ text c, load files (before ++ (x.variableName, text) :: after) paths = .ok c

/-- Laid over a tree among what leads apart from it, a value for the setting is read from there. -/
theorem map_get_settings? (x : Setting α) {first last : List (String × Json)}
    (hapart : ∀ given ∈ last, Apart (stepsOf x.path) (stepsOf given.1))
    {fields : List (String × Json)} {v : Json} (hv : ∀ fields, v ≠ .obj fields)
    (hloads : (∃ c, settings? (addLayer (.obj fields) (first ++ last)) = some c) ∨
      ∃ w c, (∀ fields, w ≠ .obj fields) ∧
        settings? (addLayer (.obj fields) (first ++ (x.path, w) :: last)) = some c) :
    (settings? (addLayer (.obj fields) (first ++ (x.path, v) :: last))).map x.get = x.read? v := by
  have hsteps : stepsOf x.path = [.field x.table, .field x.key] := x.steps_eq
  rw [hsteps] at hapart
  simp only [addLayer_append, addLayer_cons] at hloads ⊢
  obtain ⟨out, hout⟩ := exists_addLayer first fields
  rw [hout] at hloads ⊢
  obtain ⟨outv, houtv, hgiven⟩ := givenAt_place hsteps hv out
  rw [houtv]
  cases hloads with
  | inl hwithout =>
    -- what loads has nothing at the path, or what files give
    obtain ⟨c, hc⟩ := hwithout
    obtain ⟨all, allv, hall, hallv, hgiven⟩ := hgiven.addLayer hapart
    rw [hallv]
    exact x.map_get hgiven (hall ▸ hc)
  | inr hwith =>
    -- what loads has another value there
    obtain ⟨w, c, hw, hc⟩ := hwith
    obtain ⟨outw, houtw, hgivenw⟩ := givenAt_place hsteps hw out
    obtain ⟨allw, allv, hallw, hallv, hgiven⟩ := (hgivenw.swap hgiven).addLayer hapart
    rw [hallv]
    rw [houtw, hallw] at hc
    exact x.map_get hgiven hc

variable {x : Setting α} {files : Files} {paths : List String}
  {before after : List (String × String)}

/-- If the rest can be loaded, the files can be read. -/
theorem RestValid.exists_tree (h : x.RestValid files paths before after) :
    ∃ fields, paths.foldlM (addFile? files) (.obj []) = some (.obj fields) := by
  cases h.loads with
  | inl hloads =>
    obtain ⟨c, hc⟩ := hloads
    exact Config.exists_tree hc
  | inr hloads =>
    obtain ⟨text, c, hc⟩ := hloads
    exact Config.exists_tree hc

/-- The setting has one entry among those of the variables, and what comes behind it leads apart. -/
theorem RestValid.exists_entry (h : x.RestValid files paths before after) :
    ∃ first last, layerOfVariables (before ++ after) = first ++ last ∧
      (∀ text, layerOfVariables (before ++ (x.variableName, text) :: after) =
        first ++ (x.path, variableValue x.path text) :: last) ∧
      ∀ given ∈ last, Apart (stepsOf x.path) (stepsOf given.1) := by
  -- no other variable is for this setting, since its path is not apart from itself
  have hothers : ∀ p ∈ before ++ after, variablePath? p.1 ≠ some x.path :=
    fun p hp hpath => not_apart_self _ (h.apart p hp x.path hpath)
  obtain ⟨first, last, hwithout, hwith⟩ := exists_layer x.path_eq hothers
  refine ⟨first, last, hwithout, hwith, fun given hgiven => ?_⟩
  have hmem : given ∈ layerOfVariables (before ++ after) := by
    rw [hwithout]
    exact List.mem_append_right _ hgiven
  obtain ⟨p, hp, hpath⟩ := exists_variable hmem
  exact h.apart p hp given.1 hpath

/-- With the rest in order, loading comes to reading the setting from what its variable gives. -/
theorem RestValid.exists_load (h : x.RestValid files paths before after) (text : String) :
    ∃ r : Option Settings, r.map x.get = x.read? (variableValue x.path text) ∧
      load files (before ++ (x.variableName, text) :: after) paths =
        r.elim (.error (.configuration "Failed to deserialize config")) .ok := by
  obtain ⟨fields, hfields⟩ := h.exists_tree
  obtain ⟨first, last, hwithout, hwith, hapart⟩ := h.exists_entry
  -- the rest was loaded without the variable or with another text: either way but one field differs
  have hloads : (∃ c, settings? (addLayer (.obj fields) (first ++ last)) = some c) ∨
      ∃ w c, (∀ fields, w ≠ .obj fields) ∧
        settings? (addLayer (.obj fields) (first ++ (x.path, w) :: last)) = some c := by
    cases h.loads with
    | inl hloads =>
      obtain ⟨c, hc⟩ := hloads
      rw [load_eq_ok_iff hfields, hwithout] at hc
      exact .inl ⟨c, hc⟩
    | inr hloads =>
      obtain ⟨text, c, hc⟩ := hloads
      rw [load_eq_ok_iff hfields, hwith] at hc
      exact .inr ⟨_, c, variableValue_ne_obj _ text, hc⟩
  refine ⟨_, x.map_get_settings? hapart (variableValue_ne_obj _ text) hloads, ?_⟩
  rw [load_of_tree hfields, hwith]

/-- If the text can be read, the settings load with it. -/
theorem RestValid.load_of_read?_eq_some (h : x.RestValid files paths before after) {text : String}
    {a : α} (ha : x.read? (variableValue x.path text) = some a) :
    ∃ c, load files (before ++ (x.variableName, text) :: after) paths = .ok c ∧ x.get c = a := by
  obtain ⟨r, hr, hload⟩ := h.exists_load text
  rw [ha] at hr
  obtain ⟨c, rfl, hc⟩ := Option.map_eq_some_iff.1 hr
  exact ⟨c, hload, hc⟩

/-- If it cannot be read, they do not load. -/
theorem RestValid.load_of_read?_eq_none (h : x.RestValid files paths before after) {text : String}
    (hnone : x.read? (variableValue x.path text) = none) :
    load files (before ++ (x.variableName, text) :: after) paths =
      .error (.configuration "Failed to deserialize config") := by
  obtain ⟨r, hr, hload⟩ := h.exists_load text
  rw [hnone] at hr
  rw [hload, Option.map_eq_none_iff.1 hr]
  rfl

/-- A setting that is a text reads what the text of the variable gives. -/
theorem read?_of_mem_texts {x : Setting String} (hx : x ∈ texts) (text : String) :
    x.read? (variableValue x.path text) = some (givenText text) := by
  have hread : x.read? = asText? ∧ listPaths.contains x.path = false := by
    simp only [texts, List.mem_cons, List.not_mem_nil, or_false] at hx
    obtain rfl | rfl | rfl | rfl | rfl := hx
    all_goals exact ⟨rfl, by decide +kernel⟩
  rw [hread.1]
  exact asText?_variableValue hread.2 text

/-- The list of disabled plugins reads the parts of the text, unless it spells a scalar. -/
theorem read?_disabled (text : String) :
    disabled.read? (variableValue disabled.path text) =
      if (scalar? text).isSome then none else some (splitAll ',' text) :=
  asTexts?_variableValue (by decide +kernel) text

end Setting

/-- The text of a variable is taken for a truth value, an integer or a floating-point number if it
    spells one, whatever setting the variable is for. So a setting that is a text is given the
    printed form of the scalar, which is the text itself in the cases of `Verbatim` and in no other;
    and the names of disabled plugins, joined by commas, are given as they are unless there is a
    single one that spells a scalar: then nothing loads. -/
theorem load_with_variable (files : Files) (paths : List String)
    (before after : List (String × String)) :
    (∀ x ∈ Setting.texts, x.RestValid files paths before after → ∀ text : String,
      ∃ c, load files (before ++ (x.variableName, text) :: after) paths = .ok c ∧
        x.get c = givenText text ∧ (x.get c = text ↔ Verbatim text)) ∧
    (Setting.disabled.RestValid files paths before after → ∀ names : List String, names ≠ [] →
      (∀ name ∈ names, ',' ∉ name.toList) →
      ((∀ name, names = [name] → scalar? name = none) →
        ∃ c, load files
            (before ++ ("FLASKBB__PLUGINS__DISABLED", joinWith "," names) :: after) paths = .ok c ∧
          c.plugins.disabled = names) ∧
      ∀ name, names = [name] → scalar? name ≠ none →
        load files (before ++ ("FLASKBB__PLUGINS__DISABLED", joinWith "," names) :: after) paths =
          .error (.configuration "Failed to deserialize config")) := by
  constructor
  · intro x hx hrest text
    obtain ⟨c, hload, hget⟩ := hrest.load_of_read?_eq_some (Setting.read?_of_mem_texts hx text)
    -- what is given is the text itself just where it is spelled as it is printed
    refine ⟨c, hload, hget, ?_⟩
    rw [hget]
    exact givenText_eq_self_iff
  · intro hrest names hne hcomma
    constructor
    · intro hsingle
      apply hrest.load_of_read?_eq_some
      -- joined by commas, several names spell no scalar, and are taken apart again
      rw [Setting.read?_disabled, scalar?_joinWith hne hsingle, splitAll_joinWith rfl hne hcomma]
      rfl
    · intro name hname hscalar
      apply hrest.load_of_read?_eq_none
      rw [Setting.read?_disabled, hname]
      exact if_pos (Option.isSome_iff_ne_none.2 hscalar)

/-- A folder, and two names one of which looks like a number, beside other variables. -/
theorem load_with_variable_folder :
    let files : Files := ⟨.folder [], []⟩
    let before := [("HOME", "/root")]
    let after := [("FLASKBB__LOGGING__LEVEL", "debug")]
    (∃ c, load files (before ++ ("FLASKBB__PLUGINS__DIRECTORY", "/srv/plugins") :: after) [] =
        .ok c ∧ c.plugins.directory = "/srv/plugins") ∧
    ∃ c, load files (before ++ ("FLASKBB__PLUGINS__DISABLED", "portal,2048") :: after) [] =
        .ok c ∧ c.plugins.disabled = ["portal", "2048"] := by
  intro files before after
  have hloads : load files (before ++ after) [] = .ok { logging := { level := "debug" } } := by
    decide +kernel
  obtain ⟨htexts, hnames⟩ := load_with_variable files [] before after
  constructor
  · have hrest : Setting.directory.RestValid files [] before after :=
      ⟨by decide +kernel, .inl ⟨_, hloads⟩⟩
    obtain ⟨c, hload, -, hsame⟩ := htexts .directory (by simp [Setting.texts]) hrest "/srv/plugins"
    -- no truth value and no number has a slash in it
    have hplain : scalar? "/srv/plugins" = none :=
      scalar?_eq_none_of_mem (c := '/') (by decide) (by decide +kernel) (by decide) (by decide)
    exact ⟨c, hload, hsame.2 (.plain hplain)⟩
  · have hrest : Setting.disabled.RestValid files [] before after :=
      ⟨by decide +kernel, .inl ⟨_, hloads⟩⟩
    exact (hnames hrest ["portal", "2048"] (by decide) (by decide)).1 (by simp)

/-- Zeros at the front of a project name are lost, and a single disabled name that is a number keeps
    the settings from loading. -/
theorem variables_taken_for_numbers :
    let files : Files := ⟨.folder [], []⟩
    load files [] [] = .ok {} ∧
      load files [("FLASKBB__PLUGINS__PROJECT_NAME", "007")] [] =
        .ok { plugins := { projectName := "7" } } ∧
      load files [("FLASKBB__PLUGINS__DISABLED", "2048")] [] =
        .error (.configuration "Failed to deserialize config") := by
  intro files
  exact ⟨by decide +kernel, by decide +kernel, by decide +kernel⟩

end Plugboard.Config
