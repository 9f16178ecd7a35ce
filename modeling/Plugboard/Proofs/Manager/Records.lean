import Plugboard.Proofs.Manager.Blocking

/-!
# The records of discovery

What discovery finds is written down in three places: the findings, the descriptions and the
disabled plugins. The first two are one record seen twice. Read in order, the descriptions are those
of the findings, however often a plugin is found again in another distribution (`Recorded`), and so
a description is looked up by searching the findings (`Recorded.metadata?_eq`).

Nothing is ever struck out. Under whatever names something was found or disabled, the names stay, in
their order, and others come after them (`precedes_run`). Where only load passes disable
plugins, these are plugins of blocked names that were found (`parked_run`).
-/

namespace Plugboard

/-- The name of a finding and the description of its plugin. -/
def Finding.described (f : Finding) : String × DistMeta :=
  (f.name, .ofDistribution f.name f.distribution)

/-- A finding in place of those that have its name. -/
def Finding.inPlaceOf (finding f : Finding) : Finding :=
  if f.name = finding.name then finding else f

/-- What stands in the place of a finding has its name. -/
theorem Finding.name_inPlaceOf (finding f : Finding) : (finding.inPlaceOf f).name = f.name := by
  rw [inPlaceOf]
  split
  · rename_i hname
    exact hname.symm
  · rfl

/-- So the names of findings stay when one of them is replaced. -/
theorem map_name_inPlaceOf (finding : Finding) (fs : List Finding) :
    (fs.map finding.inPlaceOf).map (·.name) = fs.map (·.name) := by
  rw [List.map_map]
  exact List.map_congr_left fun f _ => finding.name_inPlaceOf f

/-- Where its name is not met, a finding takes no place. -/
theorem map_inPlaceOf_of_not_mem {finding : Finding} {fs : List Finding}
    (h : finding.name ∉ fs.map (·.name)) : fs.map finding.inPlaceOf = fs := by
  conv_rhs => rw [← List.map_id fs]
  refine List.map_congr_left fun f hf => ?_
  have hname : f.name ≠ finding.name := fun hname => h (hname ▸ List.mem_map_of_mem hf)
  rw [Finding.inPlaceOf, if_neg hname, id]

/-- Findings are described under their names. -/
theorem keys_map_described (fs : List Finding) :
    Keyed.keys (fs.map Finding.described) = fs.map (·.name) := by
  rw [Keyed.keys, List.map_map]
  rfl

/-- Where names are distinct, describing a finding anew is describing what takes its place. -/
theorem put_described {fs : List Finding} (hfs : (fs.map (·.name)).Nodup) {finding : Finding}
    (hmem : finding.name ∈ fs.map (·.name)) :
    Keyed.put finding.name finding.described.2 (fs.map Finding.described) =
      (fs.map finding.inPlaceOf).map Finding.described := by
  induction fs with
  | nil => cases hmem
  | cons f rest ih =>
    obtain ⟨hf, hnodup⟩ := List.nodup_cons.1 hfs
    simp only [List.map_cons]
    by_cases hname : f.name = finding.name
    · -- this is the place, and there is no other
      have hrest : finding.name ∉ rest.map (·.name) := by
        rw [← hname]
        exact hf
      rw [map_inPlaceOf_of_not_mem hrest, Finding.inPlaceOf, if_pos hname]
      exact if_pos hname
    · -- the place comes later, and the induction hypothesis finds it there
      have hlater : finding.name ∈ rest.map (·.name) :=
        (List.mem_cons.1 hmem).resolve_left (Ne.symm hname)
      rw [← ih hnodup hlater, Finding.inPlaceOf, if_neg hname]
      exact if_neg hname

namespace Manager

/-- The names under which plugins were found, in the order in which they were first found. -/
def foundNames (m : Manager) : List String := m.found.map (·.name)

/-- The names under which plugins are disabled. -/
def disabledNames (m : Manager) : List String := m.disabled.map (·.name)

/-- Managers with the same findings have the same names of findings. -/
theorem foundNames_congr {m n : Manager} (h : m.findings = n.findings) :
    m.foundNames = n.foundNames :=
  congrArg (·.1.map (·.name)) h

/-- Managers with the same disabled plugins have the same names of them. -/
theorem disabledNames_congr {m n : Manager} (h : m.findings = n.findings) :
    m.disabledNames = n.disabledNames :=
  congrArg (·.2.1.map (·.name)) h

/-- A plugin was found under a name if this is the name of a finding. -/
theorem hasFound_iff {m : Manager} {name : String} :
    m.hasFound name = true ↔ name ∈ m.foundNames := by
  simp [hasFound, foundNames]

/-- A finding is recorded in place of those of its name, or else as the last. -/
theorem found_recordWith (m : Manager) (supply : Supply) (finding : Finding) :
    (m.recordWith supply finding).found =
      if m.hasFound finding.name then m.found.map finding.inPlaceOf else m.found ++ [finding] := rfl

/-- Recording a finding adds its name, unless something was found under it. -/
theorem foundNames_recordWith (m : Manager) (supply : Supply) (finding : Finding) :
    (m.recordWith supply finding).foundNames =
      if m.hasFound finding.name then m.foundNames else m.foundNames ++ [finding.name] := by
  rw [foundNames, found_recordWith]
  split
  · exact map_name_inPlaceOf finding m.found
  · rw [List.map_append]
    rfl

/-- Disabling a plugin adds its name, unless one is disabled under it. -/
theorem disabledNames_disable (m : Manager) (finding : Finding) :
    (m.disable finding).disabledNames =
      if m.hasDisabled finding.name then m.disabledNames
      else m.disabledNames ++ [finding.name] := by
  rw [disable, hasDisabled]
  split
  · rfl
  · rw [disabledNames, List.map_append]
    rfl

/-! ## One record seen twice -/

/-- No name is recorded twice, and the descriptions are those of the findings. -/
structure Recorded (m : Manager) : Prop where
  nodup_found : m.foundNames.Nodup
  nodup_disabled : m.disabledNames.Nodup
  metadata_eq : m.metadata = m.found.map Finding.described

/-- A new manager has found nothing. -/
theorem recorded_new (project : String) : (Manager.new project).Recorded :=
  ⟨List.nodup_nil, List.nodup_nil, rfl⟩

/-- Findings, disabled plugins and descriptions are all that the record is about. -/
theorem Recorded.congr {m n : Manager} (h : m.Recorded) (hfindings : n.findings = m.findings) :
    n.Recorded := by
  have hfound : n.found = m.found := congrArg (·.1) hfindings
  have hmetadata : n.metadata = m.metadata := congrArg (·.2.2) hfindings
  -- the three tables are parts of the findings
  constructor
  · rw [foundNames_congr hfindings]
    exact h.nodup_found
  · rw [disabledNames_congr hfindings]
    exact h.nodup_disabled
  · rw [hmetadata, hfound]
    exact h.metadata_eq

/-- A name that is not in a list can be put at its end. -/
theorem nodup_append_singleton {names : List String} (h : names.Nodup) {name : String}
    (hname : name ∉ names) : (names ++ [name]).Nodup := by
  rw [← List.concat_eq_append, List.nodup_concat]
  exact ⟨hname, h⟩

namespace Recorded

variable {m : Manager} (h : m.Recorded)
include h

/-- There is a description under every name that was found, and under no other. -/
theorem keys_metadata : Keyed.keys m.metadata = m.foundNames := by
  rw [h.metadata_eq, keys_map_described, foundNames]

/-- The description under a name is that of the plugin found under it. -/
theorem metadata?_eq (name : String) :
    m.metadata? name = (m.found.find? (·.name = name)).map (·.described.2) := by
  rw [metadata?, h.metadata_eq]
  clear h
  induction m.found with
  | nil => rfl
  | cons f rest ih =>
    rw [List.map_cons, Finding.described, Keyed.get?, ih, List.find?_cons]
    by_cases hname : f.name = name <;> simp [hname, Finding.described]

/-- Recording a finding keeps findings and descriptions in step. -/
theorem recordWith (supply : Supply) (finding : Finding) :
    (m.recordWith supply finding).Recorded where
  nodup_found := by
    rw [foundNames_recordWith]
    split
    · exact h.nodup_found
    · rename_i hnew
      rw [hasFound_iff] at hnew
      exact nodup_append_singleton h.nodup_found hnew
  nodup_disabled := h.nodup_disabled
  metadata_eq := by
    have hmetadata : (m.recordWith supply finding).metadata =
        Keyed.put finding.name finding.described.2 (m.found.map Finding.described) := by
      rw [← h.metadata_eq]
      rfl
    rw [hmetadata, found_recordWith]
    split
    · -- the descriptions have the name already, and one takes its place
      rename_i hold
      exact put_described h.nodup_found (hasFound_iff.1 hold)
    · -- a new name comes last in both
      rename_i hnew
      rw [hasFound_iff] at hnew
      have hnone : Keyed.get? finding.name (m.found.map Finding.described) = none := by
        rw [Keyed.get?_eq_none_iff, keys_map_described]
        exact hnew
      rw [Keyed.put_eq_append hnone, List.map_append]
      rfl

/-- Disabling a plugin leaves both alone, and disables no name twice. -/
theorem disable (finding : Finding) : (m.disable finding).Recorded := by
  have hdisabled : (m.disable finding).disabledNames.Nodup := by
    rw [disabledNames_disable]
    split
    · exact h.nodup_disabled
    · rename_i hnew
      refine nodup_append_singleton h.nodup_disabled ?_
      simpa [hasDisabled, disabledNames] using hnew
  -- findings and descriptions are those of before
  refine ⟨?_, hdisabled, ?_⟩ <;> rw [disable_eq]
  · exact h.nodup_found
  · exact h.metadata_eq

/-- So they are in step after everything that can happen to a manager. -/
theorem run (ops : List Op) : (m.run ops).Recorded :=
  run_induction (fun m c hm => hm.congr (m.findings_call c)) (fun _ _ hm => hm.congr rfl)
    (fun _ supply finding hm => hm.recordWith supply finding)
    (fun _ finding hm => hm.disable finding) h ops

end Recorded

/-- In particular after all that happens to a new one. -/
theorem recorded_run (project : String) (ops : List Op) :
    ((Manager.new project).run ops).Recorded :=
  (recorded_new project).run ops

/-! ## Nothing is struck out -/

/-- The names of a manager are the first among those of another. -/
structure Precedes (m n : Manager) : Prop where
  foundNames_prefix : m.foundNames <+: n.foundNames
  disabledNames_prefix : m.disabledNames <+: n.disabledNames

namespace Precedes

/-- A manager precedes itself. -/
theorem refl (m : Manager) : m.Precedes m := ⟨List.prefix_refl _, List.prefix_refl _⟩

/-- What precedes a predecessor precedes. -/
theorem trans {m n k : Manager} (h : m.Precedes n) (h' : n.Precedes k) : m.Precedes k :=
  ⟨h.foundNames_prefix.trans h'.foundNames_prefix,
    h.disabledNames_prefix.trans h'.disabledNames_prefix⟩

/-- Where nothing is found or disabled, the names stay. -/
theorem of_findings {m n : Manager} (h : m.findings = n.findings) : m.Precedes n :=
  ⟨foundNames_congr h ▸ List.prefix_refl _, disabledNames_congr h ▸ List.prefix_refl _⟩

/-- What was found under a name was found under it ever after. -/
theorem hasFound {m n : Manager} (h : m.Precedes n) {name : String}
    (hname : m.hasFound name = true) : n.hasFound name = true :=
  hasFound_iff.2 (h.foundNames_prefix.subset (hasFound_iff.1 hname))

end Precedes

/-- Recording a finding strikes out no name. -/
theorem precedes_recordWith (m : Manager) (supply : Supply) (finding : Finding) :
    m.Precedes (m.recordWith supply finding) := by
  refine ⟨?_, List.prefix_refl _⟩
  rw [foundNames_recordWith]
  split
  · exact List.prefix_refl _
  · exact List.prefix_append _ _

/-- Nor does disabling a plugin. -/
theorem precedes_disable (m : Manager) (finding : Finding) : m.Precedes (m.disable finding) := by
  constructor
  · rw [disable_eq]
    exact List.prefix_refl _
  · rw [disabledNames_disable]
    split
    · exact List.prefix_refl _
    · exact List.prefix_append _ _

/-- Nor does loading an entry point, which may do both. -/
theorem precedes_loadEntryPoint (m : Manager) (resolver : Resolver) (d : Distribution)
    (e : EntryPoint) : m.Precedes (m.loadEntryPoint resolver d e).state :=
  loadEntryPoint_induction (P := (m.Precedes ·))
    (fun _ _ _ h => h.trans (precedes_recordWith _ _ _))
    (fun _ _ h => h.trans (precedes_disable _ _))
    (fun n p asked h => h.trans (.of_findings (n.findings_registerWith p asked false).symm))
    (.refl m) resolver d e

/-- Nor does loading entry points one after another. -/
theorem precedes_loadAll (m : Manager) (resolver : Resolver)
    (points : List (Distribution × EntryPoint)) : m.Precedes (m.loadAll resolver points).state :=
  loadAll_of_step (P := (m.Precedes ·)) (fun n d e h => h.trans (n.precedes_loadEntryPoint _ d e))
    (.refl m) points

/-- Whatever happens to a manager, its names stay the first of their lists. -/
theorem precedes_run (m : Manager) (ops : List Op) : m.Precedes (m.run ops) :=
  run_induction (P := (m.Precedes ·)) (fun n c h => h.trans (.of_findings (n.findings_call c).symm))
    (fun _ _ h => h.trans (.of_findings rfl)) (fun _ _ _ h => h.trans (precedes_recordWith _ _ _))
    (fun _ _ h => h.trans (precedes_disable _ _)) (.refl m) ops

/-! ## Disabled by load passes alone -/

/-- What is disabled was found, and its name is blocked. -/
structure Parked (m : Manager) : Prop where
  coherent : m.Coherent
  isBlocked : ∀ f ∈ m.disabled, m.isBlocked f.name = true
  hasFound : ∀ f ∈ m.disabled, m.hasFound f.name = true

/-- A new manager has disabled nothing. -/
theorem parked_new (project : String) : (Manager.new project).Parked :=
  ⟨coherent_new project, fun _ hf => (nomatch hf), fun _ hf => (nomatch hf)⟩

namespace Parked

variable {m : Manager} (h : m.Parked)
include h

/-- To disable nothing more, to block no less and to find no less keeps it so. -/
theorem mono {n : Manager} (hn : n.Coherent) (hdisabled : n.disabled = m.disabled)
    (hblocked : ∀ name, m.Blocks name → n.isBlocked name = true) (hfound : m.Precedes n) :
    n.Parked := by
  refine ⟨hn, fun f hf => ?_, fun f hf => ?_⟩
  · exact hblocked f.name ⟨h.coherent, h.isBlocked f (hdisabled ▸ hf)⟩
  · exact hfound.hasFound (h.hasFound f (hdisabled ▸ hf))

/-- A call disables nothing and frees no blocked name. -/
theorem call (c : Call) : (m.call c).2.Parked :=
  h.mono (h.coherent.call c) (congrArg (·.2.1) (m.findings_call c))
    (fun _ hname => (hname.call c).blocked) (.of_findings (m.findings_call c).symm)

/-- Nor does recording a finding. -/
theorem recordWith (supply : Supply) (finding : Finding) : (m.recordWith supply finding).Parked :=
  h.mono (h.coherent.recordWith supply finding) rfl (fun _ hname => hname.blocked)
    (m.precedes_recordWith supply finding)

/-- Disabling what was found under a blocked name keeps it so. -/
theorem disable {finding : Finding} (hblocked : m.isBlocked finding.name = true)
    (hfound : m.hasFound finding.name = true) : (m.disable finding).Parked := by
  -- what is disabled now was disabled before or is the finding
  have hmem : ∀ f ∈ (m.disable finding).disabled, f ∈ m.disabled ∨ f = finding := by
    intro f hf
    rw [Manager.disable] at hf
    split at hf
    · exact .inl hf
    · exact (List.mem_append.1 hf).imp id List.mem_singleton.1
  refine ⟨h.coherent.disable finding, fun f hf => ?_, fun f hf => ?_⟩
  · have hsame : (m.disable finding).isBlocked f.name = m.isBlocked f.name := by
      rw [disable_eq]
      rfl
    rw [hsame]
    rcases hmem f hf with hold | rfl
    · exact h.isBlocked f hold
    · exact hblocked
  · rw [hasFound_disable]
    rcases hmem f hf with hold | rfl
    · exact h.hasFound f hold
    · exact hfound

/-- A load pass disables only what it found under a blocked name. -/
theorem loadEntryPoint (resolver : Resolver) (d : Distribution) (e : EntryPoint) :
    (m.loadEntryPoint resolver d e).state.Parked := by
  -- it is passed over, or found and disabled, or found and registered
  rcases loadEntryPoint_cases m resolver d e with
    ⟨hm, -⟩ | ⟨p, supply, -, -, ⟨hblocked, -, -, hm⟩ | ⟨-, -, hm⟩⟩
  · rw [hm]
    exact h
  · rw [hm]
    refine (h.recordWith supply _).disable hblocked ?_
    rw [hasFound_recordWith]
    simp
  · rw [hm]
    exact (h.recordWith supply _).call (.register p (some e.name))

/-- So a load pass disables only such plugins, however many entry points it visits. -/
theorem load (files : Files) (group : String) (only? : Option String) :
    (m.load files group only?).state.Parked :=
  load_of_step (fun _ resolver d e hm => hm.loadEntryPoint resolver d e) h files group only?

end Parked

/-- Where a host disables nothing itself, what is disabled was found under a name that is
    blocked. -/
theorem parked_run (project : String) {ops : List Op}
    (hops : ∀ op ∈ ops, ∀ finding, op ≠ .disable finding) :
    ((Manager.new project).run ops).Parked := by
  refine run_of_perform (fun op hmem m hm => ?_) (parked_new project)
  -- only the host could disable what was not found, and it does not
  cases op with
  | call c => exact hm.call c
  | setDiscovery d => exact ⟨hm.coherent.congr rfl rfl rfl rfl, hm.isBlocked, hm.hasFound⟩
  | disable finding => exact absurd rfl (hops _ hmem finding)
  | load files group only? => exact hm.load files group only?

/-! ## The records after a run -/

/-- After every run the names of the findings are distinct, and so are the disabled names; the
    descriptions are those of the findings; whatever happens next, the names stay as the first of
    their lists; and if the host disabled nothing itself, a disabled name is blocked, bound to
    nothing, and one under which a plugin was found. -/
theorem records_after_run (project : String) (ops later : List Op) :
    let m := (Manager.new project).run ops
    m.foundNames.Nodup ∧ m.disabledNames.Nodup ∧
      (∀ name, name ∈ Keyed.keys m.metadata ↔ name ∈ m.foundNames) ∧
      (∀ name, m.metadata? name = (m.found.find? (·.name = name)).map
        fun f => .ofDistribution name f.distribution) ∧
      m.foundNames <+: (m.run later).foundNames ∧
      m.disabledNames <+: (m.run later).disabledNames ∧
      ((∀ op ∈ ops, ∀ finding, op ≠ .disable finding) → ∀ name ∈ m.disabledNames,
        m.isBlocked name = true ∧ m.hasPlugin name = false ∧ name ∈ m.foundNames) := by
  intro m
  have hrecorded : m.Recorded := recorded_run project ops
  have hprecedes := m.precedes_run later
  refine ⟨hrecorded.nodup_found, hrecorded.nodup_disabled,
    fun name => by rw [hrecorded.keys_metadata], fun name => ?_,
    hprecedes.foundNames_prefix, hprecedes.disabledNames_prefix, ?_⟩
  · rw [hrecorded.metadata?_eq]
    -- the finding that is met has the name that is looked up
    cases hfind : m.found.find? (·.name = name) with
    | none => rfl
    | some f =>
      have hname : f.name = name := by simpa using List.find?_some hfind
      simp [Finding.described, hname]
  · intro hops name hmem
    have hparked : m.Parked := parked_run project hops
    obtain ⟨f, hf, rfl⟩ := List.mem_map.1 hmem
    -- a blocked name has nothing bound to it
    have hblocks : m.Blocks f.name := ⟨hparked.coherent, hparked.isBlocked f hf⟩
    exact ⟨hblocks.blocked, hblocks.hasPlugin_eq_false, hasFound_iff.1 (hparked.hasFound f hf)⟩

/-- A plugin that a load pass found under a blocked name. -/
theorem records_of_blocked_portal :
    let ops : List Op := [
      .setDiscovery portalDiscovery,
      .call (.setBlocked "portal"),
      .load ⟨.folder [], []⟩ "plugins" none]
    let m := (Manager.new "forum").run ops
    (∀ op ∈ ops, ∀ finding, op ≠ .disable finding) ∧ "portal" ∈ m.disabledNames ∧
      m.isBlocked "portal" = true ∧ m.hasPlugin "portal" = false ∧ "portal" ∈ m.foundNames := by
  intro ops m
  have hops : ∀ op ∈ ops, ∀ finding, op ≠ .disable finding := by simp [ops]
  have hmem : "portal" ∈ m.disabledNames := by decide +kernel
  obtain ⟨-, -, -, -, -, -, hdisabled⟩ := records_after_run "forum" ops []
  exact ⟨hops, hmem, hdisabled hops "portal" hmem⟩

end Manager

end Plugboard
