import Plugboard.Proofs.Manager.Records

/-!
# Entry points that lead nowhere

An entry point is idle in a load pass if it is in another group, if it is not the one asked for, or
if the resolver has no factory for its value. Idle entry points have no part in a pass: a
distribution may advertise any of them, or none, and the pass binds, blocks, records and disables
the same (`load_idle`).

There are two things to see. The first is about the pass: an entry point that leads nowhere changes
no table and calls no factory, so the next one finds everything as if it had not been visited
(`loadEntryPoint_of_factory?`). The second is about what the pass leaves behind. A finding keeps its
distribution whole, idle entry points and all, so the managers after the two passes are not equal.
They differ in this alone, because no operation reads the entry points of a distribution that was
recorded: each does to a manager without them (`bare`) what it does to the manager
(`loadEntryPoint_bare`).

What a factory yields does not matter. It may depend on the calls that were made before
(`loadCalling`), since both passes make the same calls in the same order (`loadCalling_thinned`).
-/

namespace Plugboard

/-- A distribution without entry points: its name, its version and its headers. -/
def Distribution.bare (d : Distribution) : Distribution := { d with entryPoints := [] }

/-- A finding that does not say what its distribution advertises. -/
def Finding.bare (f : Finding) : Finding := { f with distribution := f.distribution.bare }

/-- What a distribution advertises has no part in the name of a finding. -/
theorem Finding.name_bare (f : Finding) : f.bare.name = f.name := rfl

/-- Nor has it in which findings a new one replaces. -/
theorem Finding.map_inPlaceOf_bare (finding : Finding) (fs : List Finding) :
    (fs.map bare).map finding.bare.inPlaceOf = (fs.map finding.inPlaceOf).map bare := by
  rw [List.map_map, List.map_map]
  refine List.map_congr_left fun f _ => ?_
  rw [Function.comp_apply, Function.comp_apply, inPlaceOf, inPlaceOf, apply_ite bare]
  rfl

namespace Manager

/-- A manager that does not know where it finds plugins, nor what the distributions that it found
    advertise. -/
def bare (m : Manager) : Manager :=
  { m with
    found := m.found.map Finding.bare
    disabled := m.disabled.map Finding.bare
    discovery? := none }

/-! ## No operation reads what a recorded distribution advertises -/

/-- The names of findings are the same without it. -/
theorem any_name_bare (fs : List Finding) (name : String) :
    (fs.map Finding.bare).any (·.name = name) = fs.any (·.name = name) := by
  rw [List.any_map]
  rfl

/-- So are the names under which something was found. -/
theorem hasFound_bare (m : Manager) (name : String) : m.bare.hasFound name = m.hasFound name :=
  any_name_bare m.found name

/-- Recording a finding does not read what was recorded of the distributions before. -/
theorem recordWith_bare (m : Manager) (supply : Supply) (finding : Finding) :
    m.bare.recordWith supply finding.bare = (m.recordWith supply finding).bare := by
  have hfound : (m.bare.recordWith supply finding.bare).found =
      (m.recordWith supply finding).found.map Finding.bare := by
    rw [found_recordWith, found_recordWith, hasFound_bare, Finding.name_bare]
    split
    · exact finding.map_inPlaceOf_bare m.found
    · rw [List.map_append]
      rfl
  -- the description says nothing of the entry points, and the rest stays as it is
  calc m.bare.recordWith supply finding.bare
      = { (m.recordWith supply finding).bare with
          found := (m.bare.recordWith supply finding.bare).found } := rfl
    _ = (m.recordWith supply finding).bare := by
      rw [hfound]
      rfl

/-- Nor does disabling a plugin. -/
theorem disable_bare (m : Manager) (finding : Finding) :
    m.bare.disable finding.bare = (m.disable finding).bare := by
  have hknown : m.bare.disabled.any (·.name = finding.bare.name) =
      m.disabled.any (·.name = finding.name) := any_name_bare m.disabled finding.name
  rw [disable, disable, hknown]
  split
  · rfl
  · simp only [bare, List.map_append, List.map_singleton]

/-- Nor does registering one: the answer is the same, and so is what becomes of the tables. -/
theorem registerWith_bare (m : Manager) (p : Plugin) (asked : Option String) (internal : Bool) :
    (m.bare.registerWith p asked internal).result = (m.registerWith p asked internal).result ∧
      (m.bare.registerWith p asked internal).state =
        (m.registerWith p asked internal).state.bare := by
  have hname : m.bare.nameOf? p.key = m.nameOf? p.key := rfl
  have hblocked : ∀ name, m.bare.isBlocked name = m.isBlocked name := fun _ => rfl
  have hregistry : m.bare.registry = m.registry := rfl
  simp only [registerWith, hname, hblocked, hregistry]
  -- both sides now branch on the same three things
  split
  · exact ⟨rfl, rfl⟩
  · split
    · exact ⟨rfl, rfl⟩
    · split <;> exact ⟨rfl, rfl⟩

/-- Nor does enrolling what was found. -/
theorem enroll_bare (m : Manager) (finding : Finding) :
    (m.bare.enroll finding.bare).result = (m.enroll finding).result ∧
      (m.bare.enroll finding.bare).state = (m.enroll finding).state.bare := by
  obtain ⟨hresult, hstate⟩ := m.registerWith_bare finding.plugin (some finding.name) false
  have hanswer : (m.bare.register finding.bare.plugin (some finding.bare.name)).result =
      (m.register finding.plugin (some finding.name)).result := hresult
  refine ⟨?_, ?_⟩
  · simp only [enroll, hanswer]
    split <;> rfl
  · rw [enroll_state, enroll_state]
    exact hstate

/-- Loading an entry point does not read what the distributions on record advertise, nor what else
    the distribution of the entry point does. -/
theorem loadEntryPoint_bare (m : Manager) (resolver : Resolver) (d : Distribution)
    (e : EntryPoint) :
    (m.bare.loadEntryPoint resolver d.bare e).result = (m.loadEntryPoint resolver d e).result ∧
      (m.bare.loadEntryPoint resolver d.bare e).state =
        (m.loadEntryPoint resolver d e).state.bare := by
  have hbound : m.bare.hasPlugin e.name = m.hasPlugin e.name := rfl
  have hblocked : m.bare.isBlocked e.name = m.isBlocked e.name := rfl
  have hsupply : m.bare.supply = m.supply := rfl
  -- what is asked about the manager has the same answers
  simp only [loadEntryPoint, hbound, hblocked, hsupply, hasFound_bare]
  split
  · exact ⟨rfl, rfl⟩
  · cases resolver.resolve m.supply e with
    | error reason => exact ⟨rfl, rfl⟩
    | ok found =>
      obtain ⟨p, supply⟩ := found
      let finding : Finding := ⟨e.name, p, d⟩
      -- both sides record the finding, one of them bare, and then do the same with it
      simp only
      split
      · refine ⟨rfl, ?_⟩
        show (m.bare.recordWith supply finding.bare).disable finding.bare =
          ((m.recordWith supply finding).disable finding).bare
        rw [recordWith_bare, disable_bare]
      · show ((m.bare.recordWith supply finding.bare).enroll finding.bare).result =
            ((m.recordWith supply finding).enroll finding).result ∧
          ((m.bare.recordWith supply finding.bare).enroll finding.bare).state =
            ((m.recordWith supply finding).enroll finding).state.bare
        rw [recordWith_bare]
        exact enroll_bare _ _

/-! ## Passes in which factories remember their calls -/

/-- Whether a load pass asks for the plugin of an entry point: not if its name is bound, nor if it
    is blocked and was found already. -/
def asks (m : Manager) (e : EntryPoint) : Bool :=
  !(m.hasPlugin e.name || m.isBlocked e.name && m.hasFound e.name)

/-- The entry points for which a factory was called, after another one was visited. -/
def callsAfter (m : Manager) (resolver : Resolver) (called : List EntryPoint) (e : EntryPoint) :
    List EntryPoint :=
  if m.asks e && (resolver.factory? e).isSome then called ++ [e] else called

/-- Loads entry points one after another. What an entry point leads to may depend on those for which
    a factory was called before it, so on how many calls a factory has had, and for what. -/
def loadCalling (m : Manager) (answer : List EntryPoint → EntryPoint → Resolver)
    (called : List EntryPoint) : List (Distribution × EntryPoint) → Step Manager Nat
  | [] => { result := 0, state := m }
  | (d, e) :: rest =>
    let s := m.loadEntryPoint (answer called e) d e
    let more := loadCalling s.state answer (m.callsAfter (answer called e) called e) rest
    { result := (if s.result then 1 else 0) + more.result
      events := s.events ++ more.events
      state := more.state }

/-- A load pass is one in which the calls made before do not count. -/
theorem loadAll_eq_loadCalling (m : Manager) (resolver : Resolver) (called : List EntryPoint)
    (points : List (Distribution × EntryPoint)) :
    m.loadAll resolver points = m.loadCalling (fun _ _ => resolver) called points := by
  induction points generalizing m called with
  | nil => rfl
  | cons point rest ih =>
    obtain ⟨d, e⟩ := point
    rw [loadAll, loadCalling, ih _ (m.callsAfter resolver called e)]

/-- What a pass asks for does not depend on what the distributions on record advertise. -/
theorem asks_bare (m : Manager) (e : EntryPoint) : m.bare.asks e = m.asks e := by
  rw [asks, asks, hasFound_bare]
  rfl

/-- Managers that are the same but for what was advertised call the same factories. -/
theorem callsAfter_congr {m n : Manager} (h : n.bare = m.bare) (resolver : Resolver)
    (called : List EntryPoint) (e : EntryPoint) :
    n.callsAfter resolver called e = m.callsAfter resolver called e := by
  rw [callsAfter, callsAfter, ← n.asks_bare, ← m.asks_bare, h]

/-! ## Entry points that lead nowhere change nothing -/

/-- An entry point without a factory is passed over. -/
theorem loadEntryPoint_of_factory? {m : Manager} {resolver : Resolver} {e : EntryPoint}
    (he : resolver.factory? e = none) (d : Distribution) :
    (m.loadEntryPoint resolver d e).result = false ∧
      (m.loadEntryPoint resolver d e).state = m := by
  rcases loadEntryPoint_cases m resolver d e with ⟨hstate, hresult, -⟩ | ⟨p, supply, hres, -⟩
  · exact ⟨hresult, hstate⟩
  · simp [Resolver.resolve, he] at hres

/-- No factory is called for an entry point without one. -/
theorem callsAfter_of_factory? (m : Manager) {resolver : Resolver} {e : EntryPoint}
    (he : resolver.factory? e = none) (called : List EntryPoint) :
    m.callsAfter resolver called e = called := by
  simp [callsAfter, he]

/-- Entry points that a pass visits, and what is left of them after any were deleted that lead to
    nothing. What else their distributions advertise does not matter. -/
inductive ThinnedPoints (silent : EntryPoint → Prop) :
    List (Distribution × EntryPoint) → List (Distribution × EntryPoint) → Prop where
  | nil : ThinnedPoints silent [] []
  | keep {d left : Distribution} (hd : left.bare = d.bare) (e : EntryPoint)
    {points kept : List (Distribution × EntryPoint)} (h : ThinnedPoints silent points kept) :
    ThinnedPoints silent ((d, e) :: points) ((left, e) :: kept)
  | delete (d : Distribution) {e : EntryPoint} (he : silent e)
    {points kept : List (Distribution × EntryPoint)} (h : ThinnedPoints silent points kept) :
    ThinnedPoints silent ((d, e) :: points) kept

/-- Without entry points that lead to nothing, a pass counts the same, and what it makes of managers
    that are the same but for what was advertised is again the same. -/
theorem loadCalling_thinned {answer : List EntryPoint → EntryPoint → Resolver}
    {points kept : List (Distribution × EntryPoint)}
    (h : ThinnedPoints (fun e => ∀ called, (answer called e).factory? e = none) points kept)
    {m n : Manager} (hbare : n.bare = m.bare) (called : List EntryPoint) :
    (n.loadCalling answer called kept).result = (m.loadCalling answer called points).result ∧
      (n.loadCalling answer called kept).state.bare =
        (m.loadCalling answer called points).state.bare := by
  -- on the deletions; what is kept is visited by both passes, after the same calls
  induction h generalizing m n called with
  | nil => exact ⟨rfl, hbare⟩
  | @keep d left hd e points kept _ ih =>
    obtain ⟨hresult, hstate⟩ := m.loadEntryPoint_bare (answer called e) d e
    obtain ⟨hresultLeft, hstateLeft⟩ := n.loadEntryPoint_bare (answer called e) left e
    rw [hbare, hd] at hresultLeft hstateLeft
    obtain ⟨hcount, hlast⟩ := ih (hstateLeft.symm.trans hstate)
      (m.callsAfter (answer called e) called e)
    simp only [loadCalling, callsAfter_congr hbare, ← hresultLeft, hresult]
    exact ⟨congrArg _ hcount, hlast⟩
  | @delete d e he points kept _ ih =>
    obtain ⟨hresult, hstate⟩ := m.loadEntryPoint_of_factory? (he called) d
    obtain ⟨hcount, hlast⟩ := ih hbare called
    simp only [loadCalling, hresult, hstate, m.callsAfter_of_factory? (he called)]
    exact ⟨hcount.trans (Nat.zero_add _).symm, hlast⟩

/-! ## Passes with and without idle entry points -/

/-- Whether an entry point has no part in a load pass: it is in another group, or it is not the one
    asked for, or it leads to nothing. -/
def Idle (resolver : Resolver) (group : String) (only? : Option String) (e : EntryPoint) : Prop :=
  e.group ≠ group ∨ (∃ name, only? = some name ∧ e.name ≠ name) ∨ resolver.factory? e = none

/-- Some entry points, and what is left of them after any idle ones were deleted. -/
inductive Thinned (idle : EntryPoint → Prop) : List EntryPoint → List EntryPoint → Prop where
  /-- Of nothing there is nothing left. -/
  | nil : Thinned idle [] []
  /-- Any entry point may stay. -/
  | keep (e : EntryPoint) {es left : List EntryPoint} (h : Thinned idle es left) :
    Thinned idle (e :: es) (e :: left)
  /-- An idle one may go. -/
  | delete {e : EntryPoint} (he : idle e) {es left : List EntryPoint} (h : Thinned idle es left) :
    Thinned idle (e :: es) left

/-- A distribution, and what is left of it after any idle entry points were deleted. -/
structure ThinnedTo (idle : EntryPoint → Prop) (d left : Distribution) : Prop where
  /-- The name, the version and the headers stay. -/
  bare_eq : left.bare = d.bare
  /-- Of the entry points idle ones are deleted. -/
  thinned : Thinned idle d.entryPoints left.entryPoints

/-- What may be deleted for one reason may be deleted for a weaker one. -/
theorem Thinned.imp {idle idle' : EntryPoint → Prop} (himp : ∀ e, idle e → idle' e)
    {es left : List EntryPoint} (h : Thinned idle es left) : Thinned idle' es left := by
  induction h with
  | nil => exact .nil
  | keep e _ ih => exact .keep e ih
  | delete he _ ih => exact .delete (himp _ he) ih

/-- Two managers that agree in all their tables. What is recorded agrees in the name, the plugin and
    the name, the version and the headers of the distribution. -/
structure Alike (m n : Manager) : Prop where
  /-- What is bound, in order, the hook tables, the blocked names and the specifications. -/
  registry_eq : n.registry = m.registry
  /-- What is internal. -/
  internalTable_eq : n.internalTable = m.internalTable
  internalIdentities_eq : n.internalIdentities = m.internalIdentities
  internalBlocked_eq : n.internalBlocked = m.internalBlocked
  /-- The descriptions of what was found. -/
  metadata_eq : n.metadata = m.metadata
  /-- What was found. -/
  found_eq : n.found.map Finding.bare = m.found.map Finding.bare
  /-- What is disabled. -/
  disabled_eq : n.disabled.map Finding.bare = m.disabled.map Finding.bare
  /-- The objects that were made. -/
  supply_eq : n.supply = m.supply

/-- Managers that are equal without it are alike. -/
theorem alike_of_bare {m n : Manager} (h : n.bare = m.bare) : m.Alike n := by
  obtain ⟨hregistry, htable, hidentities, hblocked, hmetadata, hfound, hdisabled, -, hsupply⟩ :=
    Manager.mk.inj h
  exact ⟨hregistry, htable, hidentities, hblocked, hmetadata, hfound, hdisabled, hsupply⟩

/-- An entry point that is idle whatever was called before leads to nothing, if it is visited. -/
theorem factory?_eq_none_of_idle {answer : List EntryPoint → EntryPoint → Resolver} {group : String}
    {only? : Option String} {e : EntryPoint} (h : ∀ called, Idle (answer called e) group only? e)
    (hwanted : wanted group only? e = true) (called : List EntryPoint) :
    (answer called e).factory? e = none := by
  rcases h called with hgroup | ⟨name, rfl, hname⟩ | hfactory
  · simp [wanted, hgroup] at hwanted
  · simp [wanted, hname] at hwanted
  · exact hfactory

/-- Deletions from two parts of what a pass visits are deletions from the whole. -/
theorem ThinnedPoints.append {silent : EntryPoint → Prop}
    {points kept more moreKept : List (Distribution × EntryPoint)}
    (h : ThinnedPoints silent points kept) (hmore : ThinnedPoints silent more moreKept) :
    ThinnedPoints silent (points ++ more) (kept ++ moreKept) := by
  induction h with
  | nil => exact hmore
  | keep hd e _ ih => exact .keep hd e ih
  | delete d he _ ih => exact .delete d he ih

/-- Of the entry points of one distribution, those that a pass visits and that lead to something
    stay when idle ones are deleted. -/
theorem Thinned.visited {idle silent : EntryPoint → Prop} {group : String} {only? : Option String}
    (hsilent : ∀ e, idle e → wanted group only? e = true → silent e) {es left : List EntryPoint}
    (h : Thinned idle es left) {d dLeft : Distribution} (hd : dLeft.bare = d.bare) :
    ThinnedPoints silent ((es.filter (wanted group only?)).map (d, ·))
      ((left.filter (wanted group only?)).map (dLeft, ·)) := by
  induction h with
  | nil => exact .nil
  | keep e _ ih =>
    rw [List.filter_cons, List.filter_cons]
    split
    · exact .keep hd e ih
    · exact ih
  | @delete e he es left _ ih =>
    rw [List.filter_cons]
    split
    · -- what is deleted and would be visited leads nowhere
      rename_i hwanted
      exact .delete d (hsilent e he hwanted) ih
    · exact ih

/-- Deleting idle entry points deletes from what a pass visits only some that lead to nothing. -/
theorem thinnedPoints_visited {idle silent : EntryPoint → Prop} {group : String}
    {only? : Option String} (hsilent : ∀ e, idle e → wanted group only? e = true → silent e)
    {ds left : List Distribution} (h : List.Forall₂ (ThinnedTo idle) ds left) :
    ThinnedPoints silent (visited group only? ds) (visited group only? left) := by
  induction h with
  | nil => exact .nil
  | cons hd _ ih =>
    rw [Manager.visited, Manager.visited, List.flatMap_cons, List.flatMap_cons]
    exact (hd.thinned.visited hsilent hd.bare_eq).append ih

/-- Deleting entry points that are idle whatever was called before changes nothing of what a pass
    counts, nor of what it leaves of managers that are the same but for what was advertised. -/
theorem loadCalling_idle {answer : List EntryPoint → EntryPoint → Resolver} {group : String}
    {only? : Option String} {ds left : List Distribution}
    (h : List.Forall₂ (ThinnedTo fun e => ∀ called, Idle (answer called e) group only? e) ds left)
    {m n : Manager} (hbare : n.bare = m.bare) (called : List EntryPoint) :
    let whole := m.loadCalling answer called (visited group only? ds)
    let thinned := n.loadCalling answer called (visited group only? left)
    thinned.result = whole.result ∧ whole.state.Alike thinned.state := by
  have hpoints := thinnedPoints_visited (fun e he hwanted => factory?_eq_none_of_idle he hwanted) h
  obtain ⟨hcount, hlast⟩ := loadCalling_thinned hpoints hbare called
  exact ⟨hcount, alike_of_bare hlast⟩

/-- A pass over a discovery that was just set loads what its source has. -/
theorem load_setDiscovery (m : Manager) (source : Source) (resolver : Resolver) (files : Files)
    (group : String) (only? : Option String) :
    let start := m.setDiscovery ⟨source, resolver⟩
    let points := visited group only? (source.distributions files).result
    (start.load files group only?).result = (start.loadAll resolver points).result ∧
      (start.load files group only?).state = (start.loadAll resolver points).state := by
  intro start points
  rcases load_cases start files group only? with ⟨hd, -⟩ | ⟨d, hd, hresult, hstate⟩
  · cases hd
  · cases hd
    exact ⟨hresult, hstate⟩

/-- Let some entry points be deleted from the distributions of a source, each of which is in another
    group than a pass is over, or is not the one it asks for, or leads to nothing. The pass counts
    as many plugins as before, and leaves any manager in the same state. So it is whatever factories
    yield, be it the same object or a new one each time, or anything that depends on the calls that
    were made before. -/
theorem load_idle (m : Manager) (group : String) (only? : Option String) :
    (∀ (resolver : Resolver) {source left : Source} {files filesLeft : Files},
      List.Forall₂ (ThinnedTo (Idle resolver group only?))
        (source.distributions files).result (left.distributions filesLeft).result →
      let whole := (m.setDiscovery ⟨source, resolver⟩).load files group only?
      let thinned := (m.setDiscovery ⟨left, resolver⟩).load filesLeft group only?
      thinned.result = whole.result ∧ whole.state.Alike thinned.state) ∧
    ∀ (answer : List EntryPoint → EntryPoint → Resolver) (called : List EntryPoint)
      {ds left : List Distribution},
      List.Forall₂ (ThinnedTo fun e => ∀ called, Idle (answer called e) group only? e) ds left →
      let whole := m.loadCalling answer called (visited group only? ds)
      let thinned := m.loadCalling answer called (visited group only? left)
      thinned.result = whole.result ∧ whole.state.Alike thinned.state := by
  refine ⟨fun resolver source left files filesLeft h => ?_,
    fun answer called ds left h => loadCalling_idle h rfl called⟩
  intro whole thinned
  -- both passes begin with the same manager but for the discovery, which `bare` leaves out
  obtain ⟨hcount, hstate⟩ := m.load_setDiscovery source resolver files group only?
  obtain ⟨hcountLeft, hstateLeft⟩ := m.load_setDiscovery left resolver filesLeft group only?
  have hall : List.Forall₂ (ThinnedTo fun e => ∀ _ : List EntryPoint, Idle resolver group only? e)
      (source.distributions files).result (left.distributions filesLeft).result :=
    h.imp fun d dLeft hd => ⟨hd.bare_eq, hd.thinned.imp fun e he _ => he⟩
  have hsame := @loadCalling_idle (fun _ _ => resolver) group only? _ _ hall
    (m.setDiscovery ⟨source, resolver⟩) (m.setDiscovery ⟨left, resolver⟩) rfl []
  simp only [← loadAll_eq_loadCalling, ← hcount, ← hstate, ← hcountLeft, ← hstateLeft] at hsame
  exact hsame

/-- A package with an entry point that leads to nothing, one in another group, and two that lead to
    a plugin. -/
def crowded : Distribution :=
  Distribution.new "portal" "1.0"
    |>.withEntryPoint "plugins" "broken" "missing"
    |>.withEntryPoint "themes" "dark" "portal"
    |>.withEntryPoint "plugins" "portal" "portal"
    |>.withEntryPoint "plugins" "stale" "portal"

/-- The same package with the last two alone. -/
def cleared : Distribution :=
  Distribution.new "portal" "1.0"
    |>.withEntryPoint "plugins" "portal" "portal"
    |>.withEntryPoint "plugins" "stale" "portal"

/-- One plugin is bound and one is disabled, with and without the others, be the factory one that
    makes a new object every time or one that numbers its objects by the calls. -/
theorem load_idle_crowded :
    let resolver : Resolver := ⟨[("portal", .fresh "portal" {})]⟩
    let numbered : List EntryPoint → EntryPoint → Resolver := fun called _ =>
      ⟨[("portal", .shared ⟨{}, ⟨"numbered", called.length⟩⟩)]⟩
    let m := (Manager.new "forum").run [.call (.setBlocked "stale")]
    let whole := (m.setDiscovery ⟨.installed [crowded], resolver⟩).load ⟨.folder [], []⟩ "plugins"
      none
    let thinned := (m.setDiscovery ⟨.installed [cleared], resolver⟩).load ⟨.folder [], []⟩ "plugins"
      none
    let wholeNumbered := m.loadCalling numbered [] (visited "plugins" none [crowded])
    let thinnedNumbered := m.loadCalling numbered [] (visited "plugins" none [cleared])
    List.Forall₂ (ThinnedTo (Idle resolver "plugins" none)) [crowded] [cleared] ∧
      (thinned.result = whole.result ∧ whole.state.Alike thinned.state) ∧
      whole.result = 1 ∧ whole.state.names = ["portal"] ∧
      whole.state.disabledNames = ["stale"] ∧
      (thinnedNumbered.result = wholeNumbered.result ∧
        wholeNumbered.state.Alike thinnedNumbered.state) ∧
      wholeNumbered.state.found.map (·.plugin.key.serial) = [0, 1] := by
  intro resolver numbered m whole thinned wholeNumbered thinnedNumbered
  have hthinned : ThinnedTo (Idle resolver "plugins" none) crowded cleared :=
    ⟨rfl, .delete (.inr (.inr (by decide +kernel))) (.delete (.inl (by decide))
      (.keep _ (.keep _ .nil)))⟩
  have hlists : List.Forall₂ (ThinnedTo (Idle resolver "plugins" none)) [crowded] [cleared] :=
    .cons hthinned .nil
  -- no value but `portal` has a factory, however many calls there were
  have hnumbered : List.Forall₂
      (ThinnedTo fun e => ∀ called, Idle (numbered called e) "plugins" none e) [crowded]
      [cleared] :=
    .cons ⟨rfl, .delete (fun _ => .inr (.inr rfl)) (.delete (fun _ => .inl (by decide))
      (.keep _ (.keep _ .nil)))⟩ .nil
  have hsame := @(load_idle m "plugins" none).1 resolver (.installed [crowded])
    (.installed [cleared]) ⟨.folder [], []⟩ ⟨.folder [], []⟩ hlists
  have hsameNumbered := (load_idle m "plugins" none).2 numbered [] hnumbered
  exact ⟨hlists, hsame, by decide +kernel, by decide +kernel, by decide +kernel, hsameNumbered,
    by decide +kernel⟩

end Manager

end Plugboard
