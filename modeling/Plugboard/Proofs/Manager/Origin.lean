import Plugboard.Proofs.Manager.Records
import Plugboard.Proofs.Manager.Simulation

/-!
# Where new bindings come from

A load pass may meet one name in several distributions, may find plugins that it cannot bind, and
writes each finding over the one that it recorded for the name before. What it binds is all the same
on record: under a name that the pass has bound stand the plugin that is bound and the distribution
that advertised it (`OnRecord`). The finding is recorded right before the plugin is bound, and from
then on the name is taken, so that no later entry point gets as far as the record
(`OnRecord.loadEntryPoint`).

This does not depend on how entry points become plugins. `loadEach` is a pass in which every entry
point brings its own resolver, and a load pass is one where all of them bring the same
(`loadAll_eq_loadEach`).
-/

namespace Plugboard

/-- Where something is found under a name, a finding of this name is found in its place; other names
    see no difference. -/
theorem find?_map_inPlaceOf (finding : Finding) (fs : List Finding) (name : String) :
    (fs.map finding.inPlaceOf).find? (·.name = name) =
      if finding.name = name then (fs.find? (·.name = name)).map fun _ => finding
      else fs.find? (·.name = name) := by
  induction fs with
  | nil => simp
  | cons f rest ih =>
    have hkept : (finding.inPlaceOf f).name = f.name := finding.name_inPlaceOf f
    rw [List.map_cons, List.find?_cons, List.find?_cons, hkept, ih]
    by_cases hf : f.name = name
    · -- the first of this name: it is replaced if the finding has the name, too
      by_cases hname : finding.name = name
      · simp [hf, hname, Finding.inPlaceOf]
      · have hother : f.name ≠ finding.name := fun h => hname (h.symm.trans hf)
        simp [hf, hname, Finding.inPlaceOf, Ne.symm hname]
    · simp [hf]

namespace Manager

/-- What was recorded last for a name is what is found under it. -/
theorem find?_recordWith (m : Manager) (supply : Supply) (finding : Finding) (name : String) :
    (m.recordWith supply finding).found.find? (·.name = name) =
      if finding.name = name then some finding else m.found.find? (·.name = name) := by
  rw [found_recordWith]
  cases hold : m.hasFound finding.name with
  | true =>
    -- something was found under the name before, and the finding takes its place
    rw [if_pos rfl, find?_map_inPlaceOf]
    split
    · rename_i hname
      have hsome : (m.found.find? (·.name = name)).isSome = true := by
        rw [List.isSome_find?, ← hname]
        exact hold
      obtain ⟨f, hf⟩ := Option.isSome_iff_exists.1 hsome
      rw [hf, Option.map_some]
    · rfl
  | false =>
    rw [if_neg Bool.false_ne_true, List.find?_append]
    by_cases hname : finding.name = name
    · -- the finding comes last, and nothing before it has its name
      have hnone : m.found.find? (·.name = name) = none := by
        rw [← Option.not_isSome_iff_eq_none, List.isSome_find?, ← hname]
        simpa [hasFound] using hold
      rw [hnone]
      simp [hname]
    · simp [hname]

/-! ## Bindings that are on record -/

/-- A plugin is bound, and it is the one recorded under its name, with the distribution that
    advertised it. -/
structure OnRecord (m : Manager) (b : Binding) (d : Distribution) : Prop where
  bound : m.registry.plugin? b.name = some b.plugin
  found : m.found.find? (·.name = b.name) = some ⟨b.name, b.plugin, d⟩
  described : m.metadata? b.name = some (.ofDistribution b.name d)

/-- Nothing is recorded over a binding. -/
theorem OnRecord.recordWith {m : Manager} {b : Binding} {d : Distribution} (h : m.OnRecord b d)
    (supply : Supply) (finding : Finding) (hname : finding.name ≠ b.name) :
    (m.recordWith supply finding).OnRecord b d where
  bound := h.bound
  found := by
    rw [find?_recordWith, if_neg hname]
    exact h.found
  described := by
    rw [metadata?_recordWith, if_neg (Ne.symm hname)]
    exact h.described

/-- What is on record stays on record while the manager grows and the findings stay. -/
theorem OnRecord.mono {m n : Manager} {new : List Binding} {b : Binding} {d : Distribution}
    (h : m.OnRecord b d) (hgrows : m.Grows new n) (hm : m.Coherent) (hn : n.Coherent)
    (hfindings : n.findings = m.findings) : n.OnRecord b d where
  bound := hgrows.plugin?_eq_some hm hn h.bound
  found := by
    have hfound : n.found = m.found := congrArg (·.1) hfindings
    rw [hfound]
    exact h.found
  described := by
    rw [metadata?_congr hfindings]
    exact h.described

/-- Loading an entry point leaves the record of a bound name alone. -/
theorem OnRecord.loadEntryPoint {m : Manager} {b : Binding} {d : Distribution}
    (h : m.OnRecord b d) (hm : m.Coherent) (resolver : Resolver) (advertiser : Distribution)
    (e : EntryPoint) : (m.loadEntryPoint resolver advertiser e).state.OnRecord b d := by
  -- an entry point of the bound name is passed over, so what is recorded has another name
  have hother : m.hasPlugin e.name = false → e.name ≠ b.name := by
    intro hfree hname
    rw [hname, hm.hasPlugin_eq, Registry.hasPlugin, h.bound] at hfree
    cases hfree
  rcases loadEntryPoint_cases m resolver advertiser e with
    ⟨hstate, -⟩ | ⟨p, supply, -, hfree, ⟨-, -, -, hstate⟩ | ⟨-, -, hstate⟩⟩
  · rw [hstate]
    exact h
  · have hrecorded := h.recordWith supply ⟨e.name, p, advertiser⟩ (hother hfree)
    rw [hstate, disable_eq]
    exact ⟨hrecorded.bound, hrecorded.found, hrecorded.described⟩
  · have hrecorded := h.recordWith supply ⟨e.name, p, advertiser⟩ (hother hfree)
    have hcoherent := hm.recordWith supply ⟨e.name, p, advertiser⟩
    -- the registration adds a binding or none, and leaves the findings
    have hregistered := hcoherent.registerWith p (some e.name) false
    have hfindings := (m.recordWith supply ⟨e.name, p, advertiser⟩).findings_registerWith p
      (some e.name) false
    rw [hstate]
    rcases hcoherent.registerWith_cases p (some e.name) false with
      ⟨hsame, -⟩ | ⟨hadmits, -, -, hbind⟩
    · rw [register, hsame]
      exact hrecorded
    · have hgrows := hcoherent.grows_bindAs (p := p) hadmits.free
      rw [← hbind] at hgrows
      exact hrecorded.mono hgrows hcoherent hregistered hfindings

/-- A new binding comes from an entry point: it binds a plugin that the entry point leads to, under
    the name of the entry point, and is on record unless this is empty. -/
structure StemsFrom (m : Manager) (b : Binding) (d : Distribution) (e : EntryPoint)
    (resolver : Resolver) : Prop where
  resolves : ∃ supply later, resolver.resolve supply e = .ok (b.plugin, later)
  name_eq : b.name = b.plugin.registeredName (some e.name)
  onRecord : e.name ≠ "" → m.OnRecord b d

/-- Where a binding stems from is not changed by the next entry point. -/
theorem StemsFrom.loadEntryPoint {m : Manager} {b : Binding} {d : Distribution} {e : EntryPoint}
    {resolver : Resolver} (h : m.StemsFrom b d e resolver) (hm : m.Coherent) (other : Resolver)
    (advertiser : Distribution) (next : EntryPoint) :
    (m.loadEntryPoint other advertiser next).state.StemsFrom b d e resolver :=
  ⟨h.resolves, h.name_eq, fun hname => (h.onRecord hname).loadEntryPoint hm other advertiser next⟩

/-- What an entry point binds is on record: its plugin was recorded under its name just before. -/
theorem Coherent.loadEntryPoint_stems {m : Manager} (h : m.Coherent) (resolver : Resolver)
    (d : Distribution) (e : EntryPoint) :
    ((m.loadEntryPoint resolver d e).result = false ∧
        m.Grows [] (m.loadEntryPoint resolver d e).state) ∨
      ∃ b, (m.loadEntryPoint resolver d e).result = true ∧
        m.Grows [b] (m.loadEntryPoint resolver d e).state ∧
        (m.loadEntryPoint resolver d e).state.StemsFrom b d e resolver := by
  rcases h.loadEntryPoint_grows resolver d e with
    hnothing | ⟨p, supply, hres, hfree, hallowed, -, hresult, hgrows⟩
  · exact .inl hnothing
  refine .inr ⟨⟨p.registeredName (some e.name), p⟩, hresult, hgrows,
    ⟨⟨m.supply, supply, hres⟩, rfl, fun hname => ?_⟩⟩
  -- under a name of its own an entry point is registered as it is called
  have hasked : p.registeredName (some e.name) = e.name := if_neg hname
  rcases loadEntryPoint_cases m resolver d e with
    ⟨-, hno, -⟩ | ⟨q, later, hq, -, ⟨hblocked, -⟩ | ⟨-, -, hstate⟩⟩
  · rw [hresult] at hno
    cases hno
  · rw [hallowed] at hblocked
    cases hblocked
  · obtain ⟨rfl, rfl⟩ : p = q ∧ supply = later := by
      rw [hres] at hq
      simpa using hq
    -- the registration leaves what was recorded right before it
    have hfindings := (m.recordWith supply ⟨e.name, p, d⟩).findings_registerWith p
      (some e.name) false
    have hfound : (m.loadEntryPoint resolver d e).state.found =
        (m.recordWith supply ⟨e.name, p, d⟩).found := by
      rw [hstate]
      exact congrArg (·.1) hfindings
    have hmetadata : (m.loadEntryPoint resolver d e).state.metadata? =
        (m.recordWith supply ⟨e.name, p, d⟩).metadata? := by
      rw [hstate]
      exact metadata?_congr hfindings
    rw [hasked] at hgrows ⊢
    refine ⟨?_, ?_, ?_⟩
    · have hlast : ⟨e.name, p⟩ ∈ (m.loadEntryPoint resolver d e).state.registry.bindings := by
        rw [hgrows.bindings_eq]
        exact List.mem_append_right _ (List.mem_singleton_self _)
      exact (h.loadEntryPoint resolver d e).registry.mem_bindings_iff.1 hlast
    · rw [hfound, find?_recordWith, if_pos rfl]
    · rw [hmetadata, metadata?_recordWith, if_pos rfl]

/-! ## Passes over many entry points -/

/-- Loads entry points one after another, each with a resolver of its own. What one resolver answers
    may depend on the distribution and on what it was asked before; here each answer has its own. -/
def loadEach (m : Manager) : List (Distribution × EntryPoint × Resolver) → Step Manager Nat
  | [] => { result := 0, state := m }
  | (d, e, resolver) :: rest =>
    let s := m.loadEntryPoint resolver d e
    let more := loadEach s.state rest
    { result := (if s.result then 1 else 0) + more.result
      events := s.events ++ more.events
      state := more.state }

/-- A load pass is one in which every entry point brings the same resolver. -/
theorem loadAll_eq_loadEach (m : Manager) (resolver : Resolver)
    (points : List (Distribution × EntryPoint)) :
    m.loadAll resolver points = m.loadEach (points.map fun (d, e) => (d, e, resolver)) := by
  induction points generalizing m with
  | nil => rfl
  | cons point rest ih =>
    obtain ⟨d, e⟩ := point
    simp only [loadAll, List.map_cons, loadEach, ih]

/-- A pass with many resolvers keeps a manager coherent. -/
theorem Coherent.loadEach {m : Manager} (h : m.Coherent)
    (points : List (Distribution × EntryPoint × Resolver)) :
    (m.loadEach points).state.Coherent := by
  induction points generalizing m with
  | nil => exact h
  | cons point rest ih =>
    obtain ⟨d, e, resolver⟩ := point
    exact ih (h.loadEntryPoint resolver d e)

/-- Nor is it changed by all that come after. -/
theorem StemsFrom.loadEach {m : Manager} {b : Binding} {d : Distribution} {e : EntryPoint}
    {resolver : Resolver} (h : m.StemsFrom b d e resolver) (hm : m.Coherent)
    (points : List (Distribution × EntryPoint × Resolver)) :
    (m.loadEach points).state.StemsFrom b d e resolver := by
  induction points generalizing m with
  | nil => exact h
  | cons point rest ih =>
    obtain ⟨advertiser, next, other⟩ := point
    exact ih (h.loadEntryPoint hm other advertiser next) (hm.loadEntryPoint other advertiser next)

/-- A pass adds as many bindings as it counts, and each of them comes from an entry point that it
    visited. -/
theorem Coherent.loadEach_stems {m : Manager} (h : m.Coherent)
    (points : List (Distribution × EntryPoint × Resolver)) :
    ∃ new, m.Grows new (m.loadEach points).state ∧ (m.loadEach points).result = new.length ∧
      ∀ b ∈ new, ∃ point ∈ points,
        (m.loadEach points).state.StemsFrom b point.1 point.2.1 point.2.2 := by
  -- the first entry point adds a binding or none; what it adds stays on record in the rest
  induction points generalizing m with
  | nil => exact ⟨[], .refl m, rfl, fun _ hb => (nomatch hb)⟩
  | cons point rest ih =>
    obtain ⟨d, e, resolver⟩ := point
    have hnext : (m.loadEntryPoint resolver d e).state.Coherent := h.loadEntryPoint resolver d e
    obtain ⟨more, hmore, hcount, hstems⟩ := ih hnext
    -- what the others add stems from the entry points behind the first
    have hlater : ∀ b ∈ more, ∃ point ∈ (d, e, resolver) :: rest,
        (m.loadEach ((d, e, resolver) :: rest)).state.StemsFrom b point.1 point.2.1 point.2.2 := by
      intro b hb
      obtain ⟨point, hpoint, hfrom⟩ := hstems b hb
      exact ⟨point, List.mem_cons_of_mem _ hpoint, hfrom⟩
    rcases h.loadEntryPoint_stems resolver d e with ⟨hfirst, hgrows⟩ | ⟨b, hfirst, hgrows, hfrom⟩
    · refine ⟨more, hgrows.trans hmore, ?_, hlater⟩
      simp [Manager.loadEach, hfirst, hcount]
    · refine ⟨b :: more, hgrows.trans hmore, ?_, List.forall_mem_cons.2 ⟨?_, hlater⟩⟩
      · simp [Manager.loadEach, hfirst, hcount, Nat.add_comm]
      · exact ⟨_, List.mem_cons_self, hfrom.loadEach hnext rest⟩

/-- So it is where all entry points come with the same resolver. -/
theorem Coherent.loadAll_stems {m : Manager} (h : m.Coherent) (resolver : Resolver)
    (points : List (Distribution × EntryPoint)) :
    ∃ new, m.Grows new (m.loadAll resolver points).state ∧
      ∀ b ∈ new, ∃ point ∈ points,
        (m.loadAll resolver points).state.StemsFrom b point.1 point.2 resolver := by
  rw [loadAll_eq_loadEach]
  obtain ⟨new, hgrows, -, hstems⟩ := h.loadEach_stems (points.map fun (d, e) => (d, e, resolver))
  refine ⟨new, hgrows, fun b hb => ?_⟩
  obtain ⟨point, hpoint, hfrom⟩ := hstems b hb
  obtain ⟨visited, hvisited, rfl⟩ := List.mem_map.1 hpoint
  exact ⟨visited, hvisited, hfrom⟩

/-! ## What a pass appends -/

/-- New bindings come last in the ledger and are marked as external. -/
theorem Grows.entries_eq {m n : Manager} {new : List Binding} (h : m.Grows new n)
    (hm : m.Coherent) (hn : n.Coherent) :
    n.ledger.entries = m.ledger.entries ++ new.map (⟨·, false⟩) := by
  have hinternal : n.isInternal = m.isInternal := by
    funext key
    rw [isInternal, isInternal, h.internalIdentities_eq]
  -- a new binding is of an object that was not bound, and so not internal
  have hnew : ∀ b ∈ new, m.isInternal b.plugin.key = false := by
    intro b hb
    refine hm.isInternal_eq_false ?_
    cases hname : m.registry.nameOf? b.plugin.key with
    | none => rfl
    | some name =>
      -- the object would be bound twice
      obtain ⟨p, hp, hkey⟩ := (hm.registry.nameOf?_eq_some_iff _ name).1 hname
      have hold : ⟨name, p⟩ ∈ m.registry.bindings := hm.registry.mem_bindings_iff.2 hp
      have hnodup := hn.registry.nodup_keys
      rw [h.bindings_eq, List.map_append, List.nodup_append] at hnodup
      exact absurd hkey (hnodup.2.2 _ (List.mem_map_of_mem hold) _ (List.mem_map_of_mem hb))
  simp only [ledger, hinternal, h.bindings_eq, List.map_append]
  refine congrArg (_ ++ ·) (List.map_congr_left fun b hb => ?_)
  rw [hnew b hb]

/-- The entry points that a load pass visits. -/
def visits (m : Manager) (files : Files) (group : String) (only? : Option String) :
    List (Distribution × EntryPoint) :=
  match m.discovery? with
  | none => []
  | some discovery => visited group only? (discovery.source.distributions files).result

/-- A manager after some bindings were added to those of another, each for an entry point of its
    name. -/
structure Appends (m : Manager) (points : List (Distribution × EntryPoint)) (new : List Binding)
    (n : Manager) : Prop where
  /-- The new bindings come last and are external; the others keep their names, plugins and
      marks. -/
  entries_eq : n.ledger.entries = m.ledger.entries ++ new.map (⟨·, false⟩)
  /-- No name is blocked or freed. -/
  blocked_eq : n.registry.blocked = m.registry.blocked
  internalBlocked_eq : n.internalBlocked = m.internalBlocked
  /-- The specifications stay. -/
  specs_eq : n.registry.specs = m.registry.specs
  /-- What is bound is what is recorded, with the distribution of an entry point of the name. -/
  recorded : ∀ b ∈ new, ∃ d e, (d, e) ∈ points ∧ e.name = b.name ∧
    n.registry.plugin? b.name = some b.plugin ∧
    n.found.find? (·.name = b.name) = some ⟨b.name, b.plugin, d⟩ ∧
    n.metadata? b.name = some (.ofDistribution b.name d)

/-- Where all entry points have names, all that a pass adds is on record. -/
theorem Coherent.loadEach_appends {m : Manager} (h : m.Coherent)
    {points : List (Distribution × EntryPoint × Resolver)}
    (hnames : ∀ point ∈ points, point.2.1.name ≠ "") :
    ∃ new, m.Appends (points.map fun (d, e, _) => (d, e)) new (m.loadEach points).state ∧
      (m.loadEach points).result = new.length := by
  obtain ⟨new, hgrows, hcount, hstems⟩ := h.loadEach_stems points
  refine ⟨new, ⟨hgrows.entries_eq h (h.loadEach points), hgrows.blocked_eq,
    hgrows.internalBlocked_eq, hgrows.specs_eq, fun b hb => ?_⟩, hcount⟩
  obtain ⟨⟨d, e, resolver⟩, hpoint, hfrom⟩ := hstems b hb
  have hname : e.name ≠ "" := hnames _ hpoint
  -- with a name of its own an entry point asks for it
  have hasked : b.name = e.name := hfrom.name_eq.trans (if_neg hname)
  have hrecord := hfrom.onRecord hname
  exact ⟨d, e, List.mem_map_of_mem (f := fun (d, e, _) => (d, e)) hpoint, hasked.symm,
    hrecord.bound, hrecord.found, hrecord.described⟩

/-- A load pass is one in which all entry points that it visits come with the same resolver. -/
theorem load_eq_loadEach (m : Manager) (files : Files) (group : String) (only? : Option String) :
    ∃ resolver,
      (m.load files group only?).result =
        (m.loadEach ((m.visits files group only?).map fun (d, e) => (d, e, resolver))).result ∧
      (m.load files group only?).state =
        (m.loadEach ((m.visits files group only?).map fun (d, e) => (d, e, resolver))).state := by
  -- without a discovery nothing is visited, and any resolver will do
  rcases load_cases m files group only? with ⟨hd, hresult, hstate⟩ | ⟨d, hd, hresult, hstate⟩
  · refine ⟨{}, ?_⟩
    simp only [visits, hd, List.map_nil]
    exact ⟨hresult, hstate⟩
  · refine ⟨d.resolver, ?_⟩
    simp only [visits, hd, ← loadAll_eq_loadEach]
    exact ⟨hresult, hstate⟩

/-- After any run, a load pass whose entry points all have names appends bindings and counts them.
    Each is external and stands under the name of an entry point that the pass visited; its plugin
    is the one on record under the name, with the distribution that advertised it. So it is whatever
    answers for the entry points, be it the resolver of the discovery or another one for each. -/
theorem load_appends (project : String) (ops : List Op) :
    let m := (Manager.new project).run ops
    (∀ files group only?, (∀ point ∈ m.visits files group only?, point.2.name ≠ "") →
      ∃ new, m.Appends (m.visits files group only?) new (m.load files group only?).state ∧
        (m.load files group only?).result = new.length) ∧
    ∀ points : List (Distribution × EntryPoint × Resolver),
      (∀ point ∈ points, point.2.1.name ≠ "") →
      ∃ new, m.Appends (points.map fun (d, e, _) => (d, e)) new (m.loadEach points).state ∧
        (m.loadEach points).result = new.length := by
  intro m
  have hm : m.Coherent := coherent_run project ops
  refine ⟨fun files group only? hnames => ?_, fun points => hm.loadEach_appends⟩
  obtain ⟨resolver, hresult, hstate⟩ := m.load_eq_loadEach files group only?
  have hresolved : ∀ point ∈ (m.visits files group only?).map fun (d, e) => (d, e, resolver),
      point.2.1.name ≠ "" := by
    intro point hpoint
    obtain ⟨⟨d, e⟩, hvisited, rfl⟩ := List.mem_map.1 hpoint
    exact hnames _ hvisited
  -- to forget the resolvers gives the entry points visited back
  have hpoints : ((m.visits files group only?).map fun (d, e) => (d, e, resolver)).map
      (fun (d, e, _) => (d, e)) = m.visits files group only? := by
    rw [List.map_map]
    exact List.map_id _
  obtain ⟨new, happends, hcount⟩ := hm.loadEach_appends hresolved
  rw [hpoints, ← hstate] at happends
  exact ⟨new, happends, hresult.trans hcount⟩

/-- Two packages that advertise one name. What the first leads to is bound already, under another
    name. -/
def rivalDiscovery : Discovery where
  source := .installed [
    (Distribution.new "rival" "0.9").withEntryPoint "plugins" "portal" "host",
    (Distribution.new "portal" "1.0").withEntryPoint "plugins" "portal" "portal"]
  resolver := ⟨[("host", .shared ⟨{}, ⟨"host", 0⟩⟩), ("portal", .shared ⟨{}, ⟨"portal", 0⟩⟩)]⟩

/-- The first package is recorded and refused, the second one takes its place and is bound. -/
theorem load_appends_rival :
    let m := (Manager.new "forum").run [
      .call (.register ⟨{}, ⟨"host", 0⟩⟩ none),
      .setDiscovery rivalDiscovery]
    let pass := m.load ⟨.folder [], []⟩ "plugins" none
    let points := m.visits ⟨.folder [], []⟩ "plugins" none
    points.length = 2 ∧ (∀ point ∈ points, point.2.name ≠ "") ∧
      (∃ new, m.Appends points new pass.state ∧ pass.result = new.length) ∧
      pass.result = 1 ∧ pass.state.names = ["#host", "portal"] ∧
      pass.state.found.map (·.distribution.name) = ["portal"] := by
  intro m pass points
  have hnames : ∀ point ∈ points, point.2.name ≠ "" := by decide +kernel
  have happends := (load_appends "forum" _).1 ⟨.folder [], []⟩ "plugins" none hnames
  exact ⟨by decide +kernel, hnames, happends, by decide +kernel, by decide +kernel,
    by decide +kernel⟩

end Manager

end Plugboard
