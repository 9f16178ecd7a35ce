import Plugboard.Proofs.Forum.Answers
import Plugboard.Proofs.Manager.Repetition

/-!
# A forum before discovery

A forum is made in steps, and each of them leaves a manager of which one can say who is bound and
what is blocked (`Staffed`). To begin with nobody is bound and nothing is blocked; this step is the
one that can fail, for the tag of the project (`prepare_cases`). The modules are registered one
after another, and none is refused, since their names differ and their handlers fit
(`Staffed.registerModules`). Then names are blocked one after another, which takes out the modules
of these names (`Staffed.blockAll`). So before discovery there are the modules that are not
disabled, in their order (`staffed_lobby`).
-/

namespace Plugboard

/-- Making an object leaves what exists in existence. -/
theorem Manager.Genuine.next {m : Manager} (h : m.Genuine) (line : String) (d : PluginDef) :
    Genuine { m with supply := (m.supply.next line d).2 } where
  coherent := h.coherent.congr rfl rfl rfl rfl
  bound := fun b hb => (h.bound b hb).next line d
  lent := fun discovery hd key hkey => (h.lent discovery hd key hkey).next line d

/-- A plugin that is admitted is bound. -/
theorem Manager.Coherent.registerWith_of_admits {m : Manager} (h : m.Coherent) {p : Plugin}
    {asked : Option String} (hadmits : m.registry.Admits p (p.registeredName asked))
    (internal : Bool) :
    (m.registerWith p asked internal).result = .ok (some (p.registeredName asked)) ∧
      (m.registerWith p asked internal).state =
        m.bindAs (p.registeredName asked) p internal := by
  have hresult : (m.registerWith p asked internal).result =
      .ok (some (p.registeredName asked)) :=
    (h.registerWith_result p asked internal).trans hadmits.register_result
  rcases h.registerWith_cases p asked internal with ⟨-, -, hno⟩ | ⟨-, -, -, hstate⟩
  · exact absurd hresult (hno _)
  · exact ⟨hresult, hstate⟩

namespace Forum

open Manager

/-- A manager on the way to a forum: it has the forum's specifications and looks for plugins in a
    folder, but has found none yet. Its posts and its blocked names are told. -/
structure Staffed (directory : String) (posts : List Post) (blocked : List String) (m : Manager) :
    Prop where
  genuine : m.Genuine
  specs_eq : m.registry.specs = specTable
  discovery_eq : m.discovery? = some ⟨.folder directory, resolver⟩
  findings_eq : m.findings = ([], [], [])
  roster_eq : m.roster = posts
  isBlocked_iff : ∀ name, m.isBlocked name = true ↔ name ∈ blocked

/-- Handlers that fit the forum's specifications are welcome under every name that is free and not
    blocked. -/
theorem welcomes_of_fits {m : Manager} (h : m.Coherent) (hspecs : m.registry.specs = specTable)
    {d : PluginDef} (hfits : Fits d) {name : String} (hallowed : m.isBlocked name = false)
    (hfree : m.hasPlugin name = false) : m.registry.Welcomes name d.impls where
  allowed := by rwa [← h.isBlocked_eq]
  free := by
    rw [h.hasPlugin_eq, Registry.hasPlugin] at hfree
    simpa using hfree
  fits := by
    rw [verifyImpls_eq_ok_iff, hspecs]
    exact hfits

/-! ## Specifying -/

/-- The resolver of the forum makes a new object every time. -/
theorem lent_resolver : resolver.lent = [] := rfl

/-- The forum's specifications are accepted, all of them. -/
theorem addSpecs_new : ((Registry.new projectTag).addSpecs specs).result = .ok () ∧
    ((Registry.new projectTag).addSpecs specs).state.specs = specTable := by
  decide +kernel

/-- To prepare a forum fails only if its specifications are refused. -/
theorem prepare_result (s : Settings) :
    (prepare s).result = ((Registry.new s.plugins.projectName).addSpecs specs).result := rfl

/-- A forum that is prepared has its specifications. -/
theorem prepare_specs (s : Settings) : (prepare s).state.registry.specs =
    ((Registry.new s.plugins.projectName).addSpecs specs).state.specs := rfl

/-- Where another tag is asked for, there is no specification of this tag. -/
theorem prepare_refused {s : Settings} (h : s.plugins.projectName ≠ projectTag) :
    (prepare s).result = .error (.noHookSpecs s.plugins.projectName specs.description) := by
  have hnone : specs.specs.filter (·.project = s.plugins.projectName) = [] := by
    rw [List.filter_eq_nil_iff]
    intro spec hspec
    rw [project_of_mem_specs hspec]
    simpa using Ne.symm h
  have hproject : (Registry.new s.plugins.projectName).project = s.plugins.projectName := rfl
  simp [prepare_result, Registry.addSpecs, hproject, hnone]

/-- Where the forum's own tag is asked for, there are its specifications and nothing else. -/
theorem staffed_prepare {s : Settings} (h : s.plugins.projectName = projectTag) :
    Staffed s.plugins.directory [] [] (prepare s).state := by
  have hspecs : (prepare s).state.registry.specs = specTable := by
    rw [prepare_specs, h]
    exact addSpecs_new.2
  have hregistry : (prepare s).state.registry =
      { Registry.new s.plugins.projectName with specs := (prepare s).state.registry.specs } :=
    (Registry.new s.plugins.projectName).addSpecs_state specs
  -- so far this is a run, and what it hands over is a resolver that lends nothing
  have hgenuine : (prepare s).state.Genuine := by
    refine @genuine_run s.plugins.projectName
      [.setDiscovery ⟨.folder s.plugins.directory, resolver⟩, .call (.addSpecs specs)]
      ⟨fun key hkey => ?_, fun _ hkey => (nomatch hkey), trivial⟩
    rw [Op.objects, lent_resolver] at hkey
    cases hkey
  refine ⟨hgenuine, hspecs, rfl, rfl, ?_, fun name => ?_⟩
  · rw [roster, ledger, hregistry]
    rfl
  · rw [hgenuine.coherent.isBlocked_eq, hregistry]
    simp [Registry.isBlocked, Registry.new]

/-- Another tag than that of the specifications is the one thing that a forum cannot begin with. -/
theorem prepare_cases (s : Settings) :
    (s.plugins.projectName ≠ projectTag ∧
        (prepare s).result = .error (.noHookSpecs s.plugins.projectName specs.description)) ∨
      (s.plugins.projectName = projectTag ∧ (prepare s).result = .ok () ∧
        Staffed s.plugins.directory [] [] (prepare s).state) := by
  by_cases hproject : s.plugins.projectName = projectTag
  · have hresult : (prepare s).result = .ok () := by
      rw [prepare_result, hproject]
      exact addSpecs_new.1
    exact .inr ⟨hproject, hresult, staffed_prepare hproject⟩
  · exact .inl ⟨hproject, prepare_refused hproject⟩

namespace Staffed

variable {directory : String} {posts : List Post} {blocked : List String} {m : Manager}

/-! ## Registering the modules -/

/-- A module whose name is free is bound as an internal plugin. -/
theorem registerModule (h : Staffed directory posts [] m) {c : CoreModule}
    (hname : c.name ∉ posts.map (·.name)) :
    let made := m.supply.next (line c.name) c.plugin
    let s := { m with supply := made.2 }.registerInternal made.1 none
    s.result = .ok (some c.name) ∧ Staffed directory (posts ++ [c.post]) [] s.state := by
  intro made s
  have hgenuine : Genuine { m with supply := made.2 } := h.genuine.next (line c.name) c.plugin
  have hallowed : m.isBlocked c.name = false := by
    rw [← Bool.not_eq_true, h.isBlocked_iff]
    exact List.not_mem_nil
  have hfree : m.hasPlugin c.name = false := by
    rw [h.genuine.coherent.hasPlugin_eq_roster, h.roster_eq]
    simpa using hname
  -- the object is new, and its name and its handlers are welcome
  have hadmits : m.registry.Admits made.1 (made.1.registeredName none) :=
    Registry.admits_iff.2 ⟨h.genuine.nameOf?_next _ _,
      welcomes_of_fits h.genuine.coherent h.specs_eq (fits_plugin c) hallowed hfree⟩
  obtain ⟨hresult, hstate⟩ := hgenuine.coherent.registerWith_of_admits hadmits true
  -- the object handed over was made just before
  have hafter : s.state.Genuine := by
    refine hgenuine.call (c := .registerInternal made.1 none) fun key hkey => ?_
    rw [List.mem_singleton.1 hkey]
    exact m.supply.has_next _ _
  have hroster : s.state.roster = m.roster ++ [c.post] := by
    have hbound := hgenuine.coherent.roster_bindAs hadmits true
    rw [← hstate] at hbound
    exact hbound
  have hstate' : s.state = Manager.bindAs { m with supply := made.2 } c.name made.1 true := hstate
  refine ⟨hresult, hafter, ?_, ?_, ?_, by rw [hroster, h.roster_eq], ?_⟩ <;> rw [hstate']
  · exact h.specs_eq
  · exact h.discovery_eq
  · exact h.findings_eq
  · exact h.isBlocked_iff

/-- Modules whose names are free and differ are all bound, in their order. -/
theorem registerModules (h : Staffed directory posts [] m) {cs : List CoreModule}
    (hnames : (posts.map (·.name) ++ cs.map (·.name)).Nodup) :
    (Forum.registerModules m cs).result = .ok () ∧
      Staffed directory (posts ++ cs.map CoreModule.post) []
        (Forum.registerModules m cs).state := by
  -- the posts grow by one with every module, so the induction is over all of them
  induction cs generalizing m posts with
  | nil =>
    rw [List.map_nil, List.append_nil]
    exact ⟨rfl, h⟩
  | cons c rest ih =>
    have hsplit : posts.map (·.name) ++ (c :: rest).map (·.name) =
        (posts ++ [c.post]).map (·.name) ++ rest.map (·.name) := by
      simp [CoreModule.post]
    -- the names differ, so this one is not taken yet
    have hnew : c.name ∉ posts.map (·.name) := by
      intro hmem
      exact (List.nodup_append.1 hnames).2.2 _ hmem _ List.mem_cons_self rfl
    obtain ⟨hresult, hstaffed⟩ := h.registerModule hnew
    rw [hsplit] at hnames
    obtain ⟨hrest, hlast⟩ := ih hstaffed hnames
    simp only [Forum.registerModules, hresult]
    refine ⟨hrest, ?_⟩
    rw [List.append_assoc] at hlast
    exact hlast

/-! ## Blocking -/

/-- Blocking a name takes out the post of this name. -/
theorem setBlocked (h : Staffed directory posts blocked m) (name : String) :
    Staffed directory (posts.filter (·.name ≠ name)) (blocked ++ [name])
      (m.setBlocked name).state := by
  have hm := h.genuine.coherent
  -- what is specified and what is blocked is read off the ledger, the rest is left alone
  have hledger := hm.ledger_setBlocked name
  have hfindings := m.findings_call (.setBlocked name)
  have hdiscovery : (m.call (.setBlocked name)).2.discovery? = m.discovery? :=
    call_frame (fun _ _ _ _ _ => rfl) m (.setBlocked name)
  refine ⟨h.genuine.call (c := .setBlocked name) fun _ hkey => (nomatch hkey), ?_,
    hdiscovery.trans h.discovery_eq, hfindings.trans h.findings_eq, ?_, fun other => ?_⟩
  · have hspecs : (m.setBlocked name).state.registry.specs = m.registry.specs :=
      (congrArg (·.specs) hledger).symm
    rw [hspecs]
    exact h.specs_eq
  · rw [hm.roster_setBlocked, h.roster_eq]
  · have hblocked : (m.setBlocked name).state.ledger.blocked = insert name m.ledger.blocked :=
      (congrArg (·.blocked) hledger).symm
    have hbefore := h.isBlocked_iff other
    rw [(ledger_describes hm).isBlocked_eq, decide_eq_true_eq] at hbefore
    rw [(ledger_describes (hm.setBlocked name)).isBlocked_eq, hblocked, decide_eq_true_eq,
      Finset.mem_insert, hbefore, List.mem_append, List.mem_singleton, or_comm]

/-- Blocking many names takes out the posts of all of them. -/
theorem blockAll (h : Staffed directory posts blocked m) (names : List String) :
    Staffed directory (posts.filter (·.name ∉ names)) (blocked ++ names)
      (Forum.blockAll m names).state := by
  -- each name takes out its post from those that the names before it left
  induction names generalizing m posts blocked with
  | nil =>
    have hsame : (Forum.blockAll m []).state = m := rfl
    rw [hsame]
    simpa using h
  | cons name rest ih =>
    have hrest := ih (h.setBlocked name)
    rw [filter_not_mem_cons, List.append_assoc] at hrest
    exact hrest

end Staffed

/-! ## The forum before discovery -/

/-- The modules that are not disabled. -/
def remaining (s : PluginSettings) : List CoreModule :=
  coreModules.filter (·.name ∉ s.disabled)

/-- The manager of a forum when it begins to look for plugins. -/
def lobby (s : Settings) : Manager :=
  (blockAll (registerModules (prepare s).state coreModules).state s.plugins.disabled).state

/-- For a forum that can begin, the modules are registered without an error. -/
theorem staffed_modules {s : Settings}
    (h : Staffed s.plugins.directory [] [] (prepare s).state) :
    (registerModules (prepare s).state coreModules).result = .ok () ∧
      Staffed s.plugins.directory (coreModules.map CoreModule.post) []
        (registerModules (prepare s).state coreModules).state := by
  have hnames : (([] : List Post).map (·.name) ++ coreModules.map (·.name)).Nodup := by decide
  exact h.registerModules hnames

/-- Of the modules those stay that are not disabled. -/
theorem staffed_lobby {s : Settings}
    (h : Staffed s.plugins.directory [] [] (prepare s).state) :
    (registerModules (prepare s).state coreModules).result = .ok () ∧
      Staffed s.plugins.directory ((remaining s.plugins).map CoreModule.post)
        s.plugins.disabled (lobby s) := by
  obtain ⟨hresult, hstaffed⟩ := staffed_modules h
  have hblocked := hstaffed.blockAll s.plugins.disabled
  -- a post has the name of its module, so both filters drop the same
  have hfilter : (coreModules.map CoreModule.post).filter (·.name ∉ s.plugins.disabled) =
      (remaining s.plugins).map CoreModule.post := by
    rw [List.filter_map]
    rfl
  rw [List.nil_append, hfilter] at hblocked
  exact ⟨hresult, hblocked⟩

end Forum

end Plugboard
