import Plugboard.Proofs.Manager.Objects
import Plugboard.Proofs.Manager.Records

/-!
# A load pass made twice

After a load pass every entry point that it visited is settled: its name is bound, or it leads to
nothing, or its plugin was found and is disabled or refused (`loadAll_settles`). A manager only
grows, so what is settled stays settled (`Settled.mono`), and whoever was refused is refused again.
A second pass finds nothing new.

There is one way out. An entry point may have an empty name, which is no name to register a plugin
under. Where it leads to a new object every time, and the objects state no name either, each goes by
its own token, and no two are in each other's way (`Resolver.Nameless`). A second pass binds new
objects of such entry points, and nothing else (`load_twice`, `load_twice_nameless`).
-/

namespace Plugboard

/-- The name under which all objects of a definition are registered, if that does not depend on the
    object. -/
def PluginDef.settledName? (d : PluginDef) (asked : String) : Option String :=
  if asked = "" then d.name? else some asked

/-- A new object is registered under the name settled for its definition, or under its token. -/
theorem Supply.registeredName_next (supply : Supply) (line : String) (d : PluginDef)
    (asked : String) :
    (supply.next line d).1.registeredName (some asked) =
      (d.settledName? asked).getD (supply.next line d).1.key.token := by
  by_cases hasked : asked = ""
  · simp only [PluginDef.settledName?, hasked, ↓reduceIte]
    rfl
  · simp [PluginDef.settledName?, Plugin.registeredName, hasked]

namespace Registry

/-- What a registry admits is bound if it is registered. -/
theorem Admits.register_result {r : Registry} {p : Plugin} {asked : Option String}
    (h : r.Admits p (p.registeredName asked)) :
    (r.register p asked).result = .ok (some (p.registeredName asked)) := by
  simp [register, h.unregistered, h.allowed, hasPlugin, h.free, h.fits]

/-- Whoever was registered is not registered once more. -/
theorem not_admits_register (r : Registry) (p : Plugin) (asked : Option String) :
    ¬(r.register p asked).state.Admits p (p.registeredName asked) := by
  rcases r.register_cases p asked with ⟨hstate, hno⟩ | ⟨-, -, hstate⟩
  · -- refused for a reason that is still there
    rw [hstate]
    exact fun hadmits => hno _ hadmits.register_result
  · -- bound, so the object has a name now
    rw [hstate]
    intro hadmits
    have hkey := hadmits.unregistered
    rw [nameOf?_bind, if_pos rfl] at hkey
    cases hkey

/-- If the object was not bound, nor is another one with its handlers, under its name. -/
theorem not_welcomes_register {r : Registry} {p : Plugin} (hp : r.nameOf? p.key = none)
    (asked : Option String) :
    ¬(r.register p asked).state.Welcomes (p.registeredName asked) p.impls := by
  rcases r.register_cases p asked with ⟨hstate, hno⟩ | ⟨-, -, hstate⟩
  · -- refused, and not for the object's sake
    rw [hstate]
    intro hname
    exact hno _ (Admits.register_result (admits_iff.2 ⟨hp, hname⟩))
  · -- bound, so the name is taken
    rw [hstate]
    intro hname
    have hfree := hname.free
    rw [plugin?_bind, if_pos rfl] at hfree
    cases hfree

end Registry

/-- No object that a factory yields can be registered for an entry point of this name, save under
    its own token. -/
def Factory.Exhausted (r : Registry) (asked : String) : Factory → Prop
  | .shared p => ¬r.Admits p (p.registeredName (some asked))
  | .fresh _ d => ∀ name, d.settledName? asked = some name → ¬r.Welcomes name d.impls

/-- An entry point without a name leads to a new object every time, and this is one of them and
    states no name. -/
def Resolver.Nameless (r : Resolver) (e : EntryPoint) (p : Plugin) : Prop :=
  e.name = "" ∧ r.factory? e = some (.fresh p.key.line p.toPluginDef) ∧ p.name? = none

namespace Manager

/-- Why nothing is left to do for an entry point. -/
inductive Settled (m : Manager) (resolver : Resolver) (e : EntryPoint) : Prop where
  /-- Its name is bound. -/
  | bound (hbound : m.hasPlugin e.name = true)
  /-- It leads to nothing. -/
  | unresolved (hfactory : resolver.factory? e = none)
  /-- Its name is blocked, and a plugin was found under it. -/
  | parked (hblocked : m.isBlocked e.name = true) (hfound : m.hasFound e.name = true)
  /-- A plugin was found under its name, and what it leads to is refused. -/
  | refused {factory : Factory} (hfound : m.hasFound e.name = true)
      (hfactory : resolver.factory? e = some factory)
      (hexhausted : factory.Exhausted m.registry e.name)

/-! ## What the first pass settles -/

/-- A factory that is exhausted stays so when the manager grows. -/
theorem Grows.exhausted {m n : Manager} {new : List Binding} (h : m.Grows new n) (hm : m.Coherent)
    (hn : n.Coherent) {factory : Factory} {asked : String}
    (hfactory : factory.Exhausted m.registry asked) : factory.Exhausted n.registry asked := by
  cases factory with
  | shared p => exact fun hadmits => hfactory (h.admits hm hn hadmits)
  | fresh line d =>
    exact fun name hname hwelcome => hfactory name hname (h.welcomes hm hn hwelcome)

/-- What is settled stays settled. -/
theorem Settled.mono {m n : Manager} {resolver : Resolver} {e : EntryPoint} {new : List Binding}
    (h : m.Settled resolver e) (hgrows : m.Grows new n) (hprecedes : m.Precedes n)
    (hm : m.Coherent) (hn : n.Coherent) : n.Settled resolver e := by
  cases h with
  | bound hbound => exact .bound (hgrows.hasPlugin hm hn hbound)
  | unresolved hfactory => exact .unresolved hfactory
  | parked hblocked hfound =>
    exact .parked (hgrows.isBlocked_eq e.name ▸ hblocked) (hprecedes.hasFound hfound)
  | refused hfound hfactory hexhausted =>
    exact .refused (hprecedes.hasFound hfound) hfactory (hgrows.exhausted hm hn hexhausted)

namespace Genuine

variable {m : Manager} (h : m.Genuine)
include h

/-- When the plugin of an entry point was registered, whether it was bound or not, its factory is
    exhausted. -/
theorem exhausted_register {resolver : Resolver} {e : EntryPoint} {p : Plugin} {supply : Supply}
    (hres : resolver.resolve m.supply e = .ok (p, supply)) :
    ∃ factory, resolver.factory? e = some factory ∧
      factory.Exhausted (m.registry.register p (some e.name)).state e.name := by
  rcases Resolver.resolve_cases hres with ⟨hfactory, -⟩ | ⟨line, d, hfactory, rfl, -⟩
  · exact ⟨_, hfactory, m.registry.not_admits_register p (some e.name)⟩
  · -- a new object is bound to nothing, so only its name or its handlers can be refused
    refine ⟨_, hfactory, fun name hname => ?_⟩
    have hregistered := m.supply.registeredName_next line d e.name
    rw [hname, Option.getD_some] at hregistered
    have hrefused := Registry.not_welcomes_register (h.nameOf?_next line d) (some e.name)
    rw [hregistered] at hrefused
    exact hrefused

/-- After an entry point was visited it is settled. -/
theorem loadEntryPoint_settles (resolver : Resolver) (d : Distribution) (e : EntryPoint) :
    (m.loadEntryPoint resolver d e).state.Settled resolver e := by
  -- passed over, disabled or registered: each of these settles it
  rcases loadEntryPoint_cases m resolver d e with
    ⟨hm, -, hwhy⟩ | ⟨p, supply, hres, -, ⟨hblocked, -, -, hm⟩ | ⟨-, -, hm⟩⟩
  · -- passed over, each time for a reason that lasts
    rw [hm]
    rcases hwhy with hbound | ⟨hblocked, hfound⟩ | ⟨reason, hreason⟩
    · exact .bound hbound
    · exact .parked hblocked hfound
    · refine .unresolved ?_
      rw [Resolver.resolve] at hreason
      cases hfactory : resolver.factory? e with
      | none => rfl
      | some factory =>
        rw [hfactory] at hreason
        cases hreason
  · -- disabled: the name stays blocked, and the finding is on record
    rw [hm]
    refine .parked ?_ ?_
    · rw [disable_eq]
      exact hblocked
    · rw [hasFound_disable, hasFound_recordWith]
      simp
  · -- registered after the finding was recorded, in a registry that this did not touch
    have hrecorded := h.coherent.recordWith supply ⟨e.name, p, d⟩
    have hfindings :=
      (m.recordWith supply ⟨e.name, p, d⟩).findings_registerWith p (some e.name) false
    obtain ⟨factory, hfactory, hexhausted⟩ := h.exhausted_register hres
    rw [hm]
    refine .refused ?_ hfactory ?_
    · rw [register, hasFound_congr hfindings, hasFound_recordWith]
      simp
    · rw [register, hrecorded.registerWith_registry]
      exact hexhausted

/-- After a pass every entry point that it visited is settled. -/
theorem loadAll_settles {discovery : Discovery} (hd : m.discovery? = some discovery)
    (points : List (Distribution × EntryPoint)) : ∀ point ∈ points,
      (m.loadAll discovery.resolver points).state.Settled discovery.resolver point.2 := by
  -- the first is settled by its own step, and stays so while the others are loaded
  induction points generalizing m with
  | nil => exact fun _ hpoint => (nomatch hpoint)
  | cons first rest ih =>
    obtain ⟨d, e⟩ := first
    have hnext := h.loadEntryPoint hd d e
    have hrest := ih hnext ((m.discovery?_loadEntryPoint _ d e).trans hd)
    intro point hpoint
    rcases List.mem_cons.1 hpoint with rfl | hpoint
    · obtain ⟨new, hgrows, -⟩ := hnext.coherent.loadAll_grows discovery.resolver rest
      exact (h.loadEntryPoint_settles discovery.resolver d e).mono hgrows
        (precedes_loadAll _ _ rest) hnext.coherent (hnext.coherent.loadAll _ rest)
    · exact hrest point hpoint

end Genuine

/-! ## What is left for the second pass -/

namespace Settled

variable {m : Manager} {resolver : Resolver} {e : EntryPoint} (h : m.Settled resolver e)
include h

/-- If a settled entry point still leads to a plugin and its name is free, a plugin was found under
    the name. -/
theorem hasFound (hfree : m.hasPlugin e.name = false) {found : Plugin × Supply}
    (hres : resolver.resolve m.supply e = .ok found) : m.hasFound e.name = true := by
  cases h with
  | bound hbound =>
    rw [hbound] at hfree
    cases hfree
  | unresolved hfactory => simp [Resolver.resolve, hfactory] at hres
  | parked hblocked hfound => exact hfound
  | refused hfound hfactory hexhausted => exact hfound

/-- No name is recorded for it. -/
theorem names_loadEntryPoint (d : Distribution) :
    (m.loadEntryPoint resolver d e).state.foundNames = m.foundNames ∧
      (m.loadEntryPoint resolver d e).state.disabledNames = m.disabledNames := by
  rcases loadEntryPoint_cases m resolver d e with
    ⟨hm, -⟩ | ⟨p, supply, hres, hfree, ⟨-, hnew, -, -⟩ | ⟨-, -, hm⟩⟩
  · rw [hm]
    exact ⟨rfl, rfl⟩
  · -- it would be disabled only if nothing had been found
    rw [h.hasFound hfree hres] at hnew
    cases hnew
  · -- the finding takes the place of the one that there is
    have hfindings :=
      (m.recordWith supply ⟨e.name, p, d⟩).findings_registerWith p (some e.name) false
    have hfound : (m.recordWith supply ⟨e.name, p, d⟩).foundNames = m.foundNames := by
      rw [foundNames_recordWith, if_pos (h.hasFound hfree hres)]
    rw [hm]
    exact ⟨(foundNames_congr hfindings).trans hfound, (disabledNames_congr hfindings).trans rfl⟩

/-- A plugin that is bound for it all the same is a new one without any name. -/
theorem nameless_of_admits (hfree : m.hasPlugin e.name = false)
    (hallowed : m.isBlocked e.name = false) {p : Plugin} {supply : Supply}
    (hres : resolver.resolve m.supply e = .ok (p, supply))
    (hadmits : m.registry.Admits p (p.registeredName (some e.name))) :
    resolver.Nameless e p ∧ p.registeredName (some e.name) = p.key.token := by
  cases h with
  | bound hbound =>
    rw [hbound] at hfree
    cases hfree
  | unresolved hfactory => simp [Resolver.resolve, hfactory] at hres
  | parked hblocked hfound =>
    rw [hblocked] at hallowed
    cases hallowed
  | refused hfound hfactory hexhausted =>
    rcases Resolver.resolve_cases hres with ⟨hshared, -⟩ | ⟨line, d, hfresh, rfl, -⟩
    · -- the same object again
      rw [hshared] at hfactory
      cases hfactory
      exact absurd hadmits hexhausted
    · rw [hfresh] at hfactory
      cases hfactory
      have hregistered := m.supply.registeredName_next line d e.name
      cases hname : d.settledName? e.name with
      | some name =>
        -- another object, under the name of those before
        rw [hname, Option.getD_some] at hregistered
        rw [hregistered] at hadmits
        exact absurd (Registry.admits_iff.1 hadmits).2 (hexhausted name hname)
      | none =>
        rw [hname, Option.getD_none] at hregistered
        rw [PluginDef.settledName?] at hname
        split at hname
        · rename_i hempty
          exact ⟨⟨hempty, hfresh, hname⟩, hregistered⟩
        · cases hname

end Settled

/-- A manager after a load pass that had nothing new to find: no name is recorded, and what was
    bound all the same is bound to tokens. -/
structure Repeats (m : Manager) (new : List Binding) (n : Manager) : Prop where
  grows : m.Grows new n
  foundNames_eq : n.foundNames = m.foundNames
  disabledNames_eq : n.disabledNames = m.disabledNames
  tokens : ∀ b ∈ new, b.name = b.plugin.key.token

namespace Repeats

/-- A manager repeats itself with nothing new. -/
theorem refl (m : Manager) : m.Repeats [] m := ⟨.refl m, rfl, rfl, fun _ hb => (nomatch hb)⟩

/-- What repeats what repeats a manager repeats the manager. -/
theorem trans {m n k : Manager} {new more : List Binding} (h : m.Repeats new n)
    (h' : n.Repeats more k) : m.Repeats (new ++ more) k where
  grows := h.grows.trans h'.grows
  foundNames_eq := h'.foundNames_eq.trans h.foundNames_eq
  disabledNames_eq := h'.disabledNames_eq.trans h.disabledNames_eq
  tokens := List.forall_mem_append.2 ⟨h.tokens, h'.tokens⟩

end Repeats

/-- Loading a settled entry point once more binds at most one plugin, a nameless one, and counts
    it. -/
theorem Settled.loadEntryPoint {m : Manager} (hm : m.Coherent) {resolver : Resolver}
    {e : EntryPoint} (h : m.Settled resolver e) (d : Distribution) :
    ∃ new, m.Repeats new (m.loadEntryPoint resolver d e).state ∧
      (if (m.loadEntryPoint resolver d e).result then 1 else 0) = new.length ∧
      ∀ b ∈ new, resolver.Nameless e b.plugin := by
  obtain ⟨hfound, hdisabled⟩ := h.names_loadEntryPoint d
  rcases hm.loadEntryPoint_grows resolver d e with
    ⟨hresult, hgrows⟩ | ⟨p, supply, hres, hfree, hallowed, hadmits, hresult, hgrows⟩
  · rw [hresult]
    exact ⟨[], ⟨hgrows, hfound, hdisabled, fun _ hb => (nomatch hb)⟩, rfl,
      fun _ hb => (nomatch hb)⟩
  · -- bound once more: that is possible only without a name
    obtain ⟨hnameless, htoken⟩ := h.nameless_of_admits hfree hallowed hres hadmits
    rw [hresult]
    refine ⟨_, ⟨hgrows, hfound, hdisabled, ?_⟩, rfl, ?_⟩
    · exact List.forall_mem_singleton.2 htoken
    · exact List.forall_mem_singleton.2 hnameless

/-- Loading settled entry points once more binds as many plugins as it counts, all nameless ones. -/
theorem loadAll_settled {m : Manager} (hm : m.Coherent) {resolver : Resolver}
    {points : List (Distribution × EntryPoint)}
    (hpoints : ∀ point ∈ points, m.Settled resolver point.2) :
    ∃ new, m.Repeats new (m.loadAll resolver points).state ∧
      (m.loadAll resolver points).result = new.length ∧
      ∀ b ∈ new, ∃ point ∈ points, resolver.Nameless point.2 b.plugin := by
  induction points generalizing m with
  | nil => exact ⟨[], .refl m, rfl, fun _ hb => (nomatch hb)⟩
  | cons first rest ih =>
    obtain ⟨d, e⟩ := first
    have hnext := hm.loadEntryPoint resolver d e
    obtain ⟨new, hrepeats, hlength, hnameless⟩ :=
      (hpoints (d, e) List.mem_cons_self).loadEntryPoint hm d
    -- the others are settled still, whatever the first adds
    have hrest : ∀ point ∈ rest,
        (m.loadEntryPoint resolver d e).state.Settled resolver point.2 := fun point hpoint =>
      (hpoints point (List.mem_cons_of_mem _ hpoint)).mono hrepeats.grows
        (m.precedes_loadEntryPoint _ d e) hm hnext
    obtain ⟨more, hmore, hcount, hnamelessRest⟩ := ih hnext hrest
    refine ⟨new ++ more, hrepeats.trans hmore, ?_, List.forall_mem_append.2 ⟨?_, ?_⟩⟩
    · rw [List.length_append, ← hlength, ← hcount]
      rfl
    · exact fun b hb => ⟨(d, e), List.mem_cons_self, hnameless b hb⟩
    · intro b hb
      obtain ⟨point, hpoint, hfrom⟩ := hnamelessRest b hb
      exact ⟨point, List.mem_cons_of_mem _ hpoint, hfrom⟩

/-! ## Two passes in a row -/

/-- A load pass visits an entry point without a name that leads to objects like this one. -/
def VisitsNameless (m : Manager) (files : Files) (group : String) (only? : Option String)
    (p : Plugin) : Prop :=
  ∃ discovery, m.discovery? = some discovery ∧
    ∃ point ∈ visited group only? (discovery.source.distributions files).result,
      discovery.resolver.Nameless point.2 p

/-- A pass and the same pass again, where what is bound or yielded exists. -/
theorem Genuine.load_again {m : Manager} (h : m.Genuine) (files : Files) (group : String)
    (only? : Option String) :
    let once := (m.load files group only?).state
    let again := once.load files group only?
    ∃ new, once.Repeats new again.state ∧ again.result = new.length ∧
      ∀ b ∈ new, m.VisitsNameless files group only? b.plugin := by
  intro once again
  have honce : once.Genuine := h.load files group only?
  obtain ⟨added, hgrows, -⟩ := h.coherent.load_grows files group only?
  rcases once.load_cases files group only? with
    ⟨-, hresult, hstate⟩ | ⟨discovery, hdonce, hresult, hstate⟩
  · exact ⟨[], hstate ▸ .refl once, hresult, fun _ hb => (nomatch hb)⟩
  · -- the first pass was made with the same discovery, and so over the same entry points
    have hd : m.discovery? = some discovery := hgrows.discovery?_eq.symm.trans hdonce
    let points := visited group only? (discovery.source.distributions files).result
    have hpoints : once = (m.loadAll discovery.resolver points).state := by
      simp only [once, Manager.load, hd, points]
    -- all of them are settled by the first pass
    have hsettled : ∀ point ∈ points, once.Settled discovery.resolver point.2 := by
      rw [hpoints]
      exact h.loadAll_settles hd points
    obtain ⟨new, hrepeats, hcount, hnameless⟩ := loadAll_settled honce.coherent hsettled
    exact ⟨new, hstate ▸ hrepeats, hresult.trans hcount,
      fun b hb => ⟨discovery, hd, hnameless b hb⟩⟩

/-- A load pass after a run that can happen, and the same pass again. The second one leaves all
    names as they are: those of the findings, of the descriptions and of the disabled plugins. It
    binds as many plugins as it answers with. Each is a new object of an entry point without a name
    and is bound to its own token; where the pass visits no such entry point, it answers with zero
    and binds nothing. -/
theorem load_twice (project : String) {ops : List Op} (hops : (Manager.new project).Feasible ops)
    (files : Files) (group : String) (only? : Option String) :
    let m := (Manager.new project).run ops
    let once := (m.load files group only?).state
    let again := once.load files group only?
    again.state.foundNames = once.foundNames ∧
      Keyed.keys again.state.metadata = Keyed.keys once.metadata ∧
      again.state.disabledNames = once.disabledNames ∧
      (∃ new, once.Grows new again.state ∧ again.result = new.length ∧
        ∀ b ∈ new, b.name = b.plugin.key.token ∧ m.VisitsNameless files group only? b.plugin) ∧
      ((∀ p, ¬m.VisitsNameless files group only? p) →
        again.result = 0 ∧ again.state.registry.bindings = once.registry.bindings) := by
  intro m once again
  obtain ⟨new, hrepeats, hcount, hnameless⟩ :=
    (genuine_run project hops).load_again files group only?
  -- both passes are parts of a run, so what is recorded is in order after each
  have honce : once = (Manager.new project).run (ops ++ [.load files group only?]) := by
    rw [run_append]
    rfl
  have hagain : again.state = once.run [.load files group only?] := rfl
  have honceRecorded : once.Recorded := honce ▸ recorded_run project _
  have hagainRecorded : again.state.Recorded := by
    rw [hagain, honce, ← run_append]
    exact recorded_run project _
  refine ⟨hrepeats.foundNames_eq, ?_, hrepeats.disabledNames_eq,
    ⟨new, hrepeats.grows, hcount, fun b hb => ⟨hrepeats.tokens b hb, hnameless b hb⟩⟩,
    fun hnone => ?_⟩
  · rw [hagainRecorded.keys_metadata, honceRecorded.keys_metadata]
    exact hrepeats.foundNames_eq
  · -- every new binding would be of an entry point without a name
    have hnew : new = [] :=
      List.eq_nil_iff_forall_not_mem.2 fun b hb => hnone b.plugin (hnameless b hb)
    subst hnew
    exact ⟨hcount, hrepeats.grows.bindings_eq.trans (List.append_nil _)⟩

/-- One installed package with a plugin that is made anew every time, for an entry point of a
    name. -/
def guestDiscovery (name : String) : Discovery where
  source :=
    .installed [(Distribution.new "guests" "1.0").withEntryPoint "plugins" name "guest"]
  resolver := ⟨[("guest", .fresh "guest" {})]⟩

/-- Under a name of its own, the first object is bound and no other one. -/
theorem load_twice_named :
    let ops : List Op := [.setDiscovery (guestDiscovery "guest")]
    let once := (((Manager.new "forum").run ops).load ⟨.folder [], []⟩ "plugins" none).state
    let again := once.load ⟨.folder [], []⟩ "plugins" none
    (Manager.new "forum").Feasible ops ∧ once.foundNames = ["guest"] ∧
      again.state.foundNames = ["guest"] ∧ again.result = 0 ∧
      again.state.registry.bindings = once.registry.bindings := by
  intro ops once again
  have hops : (Manager.new "forum").Feasible ops := ⟨by decide +kernel, trivial⟩
  have honce : once.foundNames = ["guest"] := by decide +kernel
  obtain ⟨hfound, -, -, -, hnamed⟩ := load_twice "forum" hops ⟨.folder [], []⟩ "plugins" none
  have hnone : ∀ p,
      ¬((Manager.new "forum").run ops).VisitsNameless ⟨.folder [], []⟩ "plugins" none p := by
    rintro p ⟨discovery, hd, point, hpoint, hname, -⟩
    cases hd
    -- every entry point that is visited has a name
    have hpoints : ∀ point ∈ visited "plugins" none
        ((guestDiscovery "guest").source.distributions ⟨.folder [], []⟩).result,
        point.2.name = "guest" := by decide +kernel
    rw [hpoints point hpoint] at hname
    exact absurd hname (by decide)
  exact ⟨hops, honce, hfound.trans honce, hnamed hnone⟩

/-- Under an empty name, the second pass binds another object. -/
theorem load_twice_nameless :
    let ops : List Op := [.setDiscovery (guestDiscovery "")]
    let once := (((Manager.new "forum").run ops).load ⟨.folder [], []⟩ "plugins" none).state
    let again := once.load ⟨.folder [], []⟩ "plugins" none
    once.names = ["#guest~1"] ∧ again.result = 1 ∧
      again.state.names = ["#guest~1", "#guest~2"] := by
  decide +kernel

end Manager

end Plugboard
