import Plugboard.Proofs.Manager.Run
import Plugboard.Proofs.Registry.Checks

/-!
# What a load pass adds

A load pass only adds. The bindings that there were stay as they are, those that it makes come after
them and are external, and nothing else about bindings, blocked names and specifications changes:
the manager grows (`Grows`). Each entry point adds one binding or none (`loadEntryPoint_grows`), so
a pass answers with the number of bindings that it added (`load_grows`).

What grows refuses no less than before: a plugin that a manager admits was admitted by every manager
that it grew from (`Grows.admits`).
-/

namespace Plugboard

namespace Registry

/-- What it takes of a name to bind a plugin to it that is not bound yet. -/
structure Welcomes (r : Registry) (name : String) (impls : List HookImpl) : Prop where
  /-- The name is not blocked. -/
  allowed : r.isBlocked name = false
  /-- The name is not bound. -/
  free : r.plugin? name = none
  /-- The handlers fit the specifications of their hooks. -/
  fits : r.verifyImpls name impls = .ok ()

/-- A plugin is admitted if its object is not bound and its name and handlers are welcome. -/
theorem admits_iff {r : Registry} {p : Plugin} {name : String} :
    r.Admits p name ↔ r.nameOf? p.key = none ∧ r.Welcomes name p.impls :=
  ⟨fun h => ⟨h.unregistered, h.allowed, h.free, h.fits⟩,
    fun ⟨hkey, h⟩ => ⟨hkey, h.allowed, h.free, h.fits⟩⟩

end Registry

namespace Manager

/-- A manager after some external plugins were bound to names. -/
structure Grows (m : Manager) (new : List Binding) (n : Manager) : Prop where
  /-- The new bindings come last. -/
  bindings_eq : n.registry.bindings = m.registry.bindings ++ new
  /-- No name is blocked or freed. -/
  blocked_eq : n.registry.blocked = m.registry.blocked
  internalBlocked_eq : n.internalBlocked = m.internalBlocked
  /-- The specifications stay. -/
  specs_eq : n.registry.specs = m.registry.specs
  /-- No plugin becomes or ceases to be internal. -/
  internalTable_eq : n.internalTable = m.internalTable
  internalIdentities_eq : n.internalIdentities = m.internalIdentities
  /-- Plugins are found where they were found. -/
  discovery?_eq : n.discovery? = m.discovery?

namespace Grows

/-- A manager grows to itself by nothing. -/
theorem refl (m : Manager) : m.Grows [] m :=
  ⟨(List.append_nil _).symm, rfl, rfl, rfl, rfl, rfl, rfl⟩

/-- What grew once more grew by what came first and then by what came after. -/
theorem trans {m n k : Manager} {new more : List Binding} (h : m.Grows new n)
    (h' : n.Grows more k) : m.Grows (new ++ more) k where
  bindings_eq := by rw [h'.bindings_eq, h.bindings_eq, List.append_assoc]
  blocked_eq := h'.blocked_eq.trans h.blocked_eq
  internalBlocked_eq := h'.internalBlocked_eq.trans h.internalBlocked_eq
  specs_eq := h'.specs_eq.trans h.specs_eq
  internalTable_eq := h'.internalTable_eq.trans h.internalTable_eq
  internalIdentities_eq := h'.internalIdentities_eq.trans h.internalIdentities_eq
  discovery?_eq := h'.discovery?_eq.trans h.discovery?_eq

section

variable {m n : Manager} {new : List Binding} (h : m.Grows new n)
include h

/-- Growing neither blocks a name nor frees one. -/
theorem isBlocked_eq (name : String) : n.isBlocked name = m.isBlocked name := by
  simp only [isBlocked, Registry.isBlocked, h.blocked_eq, h.internalBlocked_eq]

variable (hm : m.Coherent) (hn : n.Coherent)
include hm hn

/-- The names of what came come after the names there were. -/
theorem names_eq : n.registry.names = m.registry.names ++ new.map (·.name) := by
  rw [← hn.registry.map_name_bindings, ← hm.registry.map_name_bindings, h.bindings_eq,
    List.map_append]

/-- What is bound stays bound. -/
theorem plugin?_eq_some {name : String} {p : Plugin} (hp : m.registry.plugin? name = some p) :
    n.registry.plugin? name = some p := by
  have hmem : ⟨name, p⟩ ∈ m.registry.bindings := hm.registry.mem_bindings_iff.2 hp
  have hmem' : ⟨name, p⟩ ∈ n.registry.bindings := by
    rw [h.bindings_eq]
    exact List.mem_append_left new hmem
  exact hn.registry.mem_bindings_iff.1 hmem'

/-- A name that is bound stays bound. -/
theorem hasPlugin {name : String} (hname : m.hasPlugin name = true) :
    n.hasPlugin name = true := by
  rw [hm.hasPlugin_eq, Registry.hasPlugin, Option.isSome_iff_exists] at hname
  obtain ⟨p, hp⟩ := hname
  rw [hn.hasPlugin_eq, Registry.hasPlugin, h.plugin?_eq_some hm hn hp]
  rfl

/-- A name that is free now was free before. -/
theorem plugin?_eq_none {name : String} (hname : n.registry.plugin? name = none) :
    m.registry.plugin? name = none := by
  cases hp : m.registry.plugin? name with
  | none => rfl
  | some p =>
    rw [h.plugin?_eq_some hm hn hp] at hname
    cases hname

/-- An object that is not bound now was not bound before. -/
theorem nameOf?_eq_none {key : PluginKey} (hkey : n.registry.nameOf? key = none) :
    m.registry.nameOf? key = none := by
  cases hname : m.registry.nameOf? key with
  | none => rfl
  | some name =>
    obtain ⟨p, hp, hpk⟩ := (hm.registry.nameOf?_eq_some_iff key name).1 hname
    have hbound := (hn.registry.nameOf?_eq_some_iff key name).2
      ⟨p, h.plugin?_eq_some hm hn hp, hpk⟩
    rw [hkey] at hbound
    cases hbound

/-- A name that is welcome now was welcome before. -/
theorem welcomes {name : String} {impls : List HookImpl}
    (hname : n.registry.Welcomes name impls) : m.registry.Welcomes name impls where
  allowed := by
    have hallowed := hname.allowed
    rwa [Registry.isBlocked, h.blocked_eq] at hallowed
  free := h.plugin?_eq_none hm hn hname.free
  fits := by
    -- handlers are checked against specifications, and these stay
    have hfits := hname.fits
    rwa [verifyImpls_eq, h.specs_eq, ← verifyImpls_eq] at hfits

/-- A plugin that is admitted now was admitted before. -/
theorem admits {p : Plugin} {name : String} (hp : n.registry.Admits p name) :
    m.registry.Admits p name := by
  rw [Registry.admits_iff] at hp ⊢
  exact ⟨h.nameOf?_eq_none hm hn hp.1, h.welcomes hm hn hp.2⟩

end

end Grows

/-! ## Growth by loading -/

/-- To record a finding binds nothing. -/
theorem grows_recordWith (m : Manager) (supply : Supply) (finding : Finding) :
    m.Grows [] (m.recordWith supply finding) :=
  ⟨(List.append_nil _).symm, rfl, rfl, rfl, rfl, rfl, rfl⟩

/-- Nor does disabling a plugin. -/
theorem grows_disable (m : Manager) (finding : Finding) : m.Grows [] (m.disable finding) := by
  rw [disable_eq]
  exact ⟨(List.append_nil _).symm, rfl, rfl, rfl, rfl, rfl, rfl⟩

/-- A registration is counted exactly if it answers with a name. -/
theorem enroll_result (m : Manager) (finding : Finding) :
    (m.enroll finding).result = true ↔
      ∃ name, (m.register finding.plugin (some finding.name)).result = .ok (some name) := by
  simp only [enroll]
  split <;> rename_i hresult <;> simp [hresult]

namespace Coherent

variable {m : Manager} (h : m.Coherent)
include h

/-- To bind a free name adds its binding, as an external one. -/
theorem grows_bindAs {name : String} {p : Plugin} (hfree : m.registry.plugin? name = none) :
    m.Grows [⟨name, p⟩] (m.bindAs name p false) :=
  ⟨h.registry.bindings_bind hfree, rfl, rfl, rfl, rfl, rfl, rfl⟩

/-- An entry point adds nothing and does not count, or it adds the plugin that it leads to and
    counts. -/
theorem loadEntryPoint_grows (resolver : Resolver) (d : Distribution) (e : EntryPoint) :
    ((m.loadEntryPoint resolver d e).result = false ∧
        m.Grows [] (m.loadEntryPoint resolver d e).state) ∨
      ∃ p supply, resolver.resolve m.supply e = .ok (p, supply) ∧ m.hasPlugin e.name = false ∧
        m.isBlocked e.name = false ∧ m.registry.Admits p (p.registeredName (some e.name)) ∧
        (m.loadEntryPoint resolver d e).result = true ∧
        m.Grows [⟨p.registeredName (some e.name), p⟩] (m.loadEntryPoint resolver d e).state := by
  rcases loadEntryPoint_cases m resolver d e with
    ⟨hm, hresult, -⟩ | ⟨p, supply, hres, hbound, ⟨-, -, hresult, hm⟩ | ⟨hfree, hresult, hm⟩⟩
  · rw [hm]
    exact .inl ⟨hresult, .refl m⟩
  · rw [hm]
    exact .inl ⟨hresult, (m.grows_recordWith _ _).trans (grows_disable _ _)⟩
  · -- registered: the outcome is that of the registration after the finding was recorded
    have hrecorded := h.recordWith supply ⟨e.name, p, d⟩
    have hgrows := m.grows_recordWith supply ⟨e.name, p, d⟩
    rw [hm, hresult]
    rcases hrecorded.registerWith_cases p (some e.name) false with
      ⟨hstate, -, hno⟩ | ⟨hadmits, hyes, -, hstate⟩
    · refine .inl ⟨?_, ?_⟩
      · rw [← Bool.not_eq_true, enroll_result]
        rintro ⟨name, hname⟩
        exact hno name hname
      · rw [register, hstate]
        exact hgrows
    · refine .inr ⟨p, supply, hres, hbound, hfree, hadmits, ?_, ?_⟩
      · exact (enroll_result _ _).2 ⟨_, hyes⟩
      · rw [register, hstate]
        exact hgrows.trans (hrecorded.grows_bindAs hadmits.free)

/-- Loading one entry point keeps a manager coherent. -/
theorem loadEntryPoint (resolver : Resolver) (d : Distribution) (e : EntryPoint) :
    (m.loadEntryPoint resolver d e).state.Coherent :=
  loadEntryPoint_induction (fun _ supply finding hm => hm.recordWith supply finding)
    (fun _ finding hm => hm.disable finding) (fun _ p asked hm => hm.registerWith p asked false) h
    resolver d e

/-- So does loading many. -/
theorem loadAll (resolver : Resolver) (points : List (Distribution × EntryPoint)) :
    (m.loadAll resolver points).state.Coherent :=
  loadAll_of_step (fun _ d e hm => hm.loadEntryPoint resolver d e) h points

/-- Entry points that are loaded one after another add as many bindings as they count. -/
theorem loadAll_grows (resolver : Resolver) (points : List (Distribution × EntryPoint)) :
    ∃ new, m.Grows new (m.loadAll resolver points).state ∧
      (m.loadAll resolver points).result = new.length := by
  induction points generalizing m with
  | nil => exact ⟨[], .refl m, rfl⟩
  | cons point rest ih =>
    obtain ⟨d, e⟩ := point
    -- what the others add comes after what the first one adds
    obtain ⟨more, hmore, hcount⟩ := ih (h.loadEntryPoint resolver d e)
    rcases h.loadEntryPoint_grows resolver d e with
      ⟨hfirst, hgrows⟩ | ⟨p, supply, -, -, -, -, hfirst, hgrows⟩
    · refine ⟨_, hgrows.trans hmore, ?_⟩
      simp [Manager.loadAll, hfirst, hcount]
    · refine ⟨_, hgrows.trans hmore, ?_⟩
      simp [Manager.loadAll, hfirst, hcount, Nat.add_comm]

/-- A load pass answers with the number of bindings that it added. -/
theorem load_grows (files : Files) (group : String) (only? : Option String) :
    ∃ new, m.Grows new (m.load files group only?).state ∧
      (m.load files group only?).result = new.length := by
  rcases load_cases m files group only? with ⟨-, hresult, hm⟩ | ⟨d, -, hresult, hm⟩
  · rw [hm, hresult]
    exact ⟨[], .refl m, rfl⟩
  · rw [hm, hresult]
    exact h.loadAll_grows d.resolver _

end Coherent

end Manager

end Plugboard
