import Plugboard.Manager.Load
import Plugboard.Proofs.Manager.Overlay

/-!
# Runs of a manager

A host works on a manager by calls that bind, block and specify, by installing a discovery, by
disabling plugins, and by load passes. A run is any list of these, in any order.

What a load pass does to a manager comes down to three things that may happen for an entry point:
its finding is recorded, its plugin is disabled, or its plugin is registered
(`loadEntryPoint_cases`). So a property that these and the other operations keep holds after every
run (`run_induction`); coherence is the first such property (`coherent_run`).
-/

namespace Plugboard

/-- A call that changes what is bound, blocked or specified. -/
inductive Call where
  /-- Registers an external plugin. -/
  | register (p : Plugin) (asked : Option String)
  /-- Registers a plugin, as an internal one if `internal` is set. -/
  | registerWith (p : Plugin) (asked : Option String) (internal : Bool)
  /-- Registers an internal plugin. -/
  | registerInternal (p : Plugin) (asked : Option String)
  /-- Unregisters a plugin. -/
  | unregister (s : Selector)
  /-- Blocks a name. -/
  | setBlocked (name : String)
  /-- Adds hook specifications. -/
  | addSpecs (container : SpecContainer)

/-- What a call answers. -/
inductive Answer where
  /-- The name of the plugin, nothing, or why it was refused. -/
  | registered (result : Except PluginError (Option String))
  /-- The plugin that was unregistered, if there was one. -/
  | unregistered (result : Option Plugin)
  /-- Blocking answers nothing. -/
  | blocked
  /-- Nothing, or why the specifications were refused. -/
  | specified (result : Except PluginError Unit)

/-- Anything that a host does to a manager. -/
inductive Op where
  /-- A call. -/
  | call (c : Call)
  /-- Sets where plugins are found. -/
  | setDiscovery (d : Discovery)
  /-- Disables a plugin. -/
  | disable (finding : Finding)
  /-- Runs a load pass over a group, or over one name in it, with these files in place. -/
  | load (files : Files) (group : String) (only? : Option String)

namespace Manager

/-- Makes a call. -/
def call (m : Manager) : Call → Answer × Manager
  | .register p asked => (.registered (m.register p asked).result, (m.register p asked).state)
  | .registerWith p asked internal =>
    (.registered (m.registerWith p asked internal).result,
      (m.registerWith p asked internal).state)
  | .registerInternal p asked =>
    (.registered (m.registerInternal p asked).result, (m.registerInternal p asked).state)
  | .unregister s => (.unregistered (m.unregister s).result, (m.unregister s).state)
  | .setBlocked name => (.blocked, (m.setBlocked name).state)
  | .addSpecs container =>
    (.specified (m.addSpecs container).result, (m.addSpecs container).state)

/-- Makes calls one after another, and collects the answers. -/
def calls (m : Manager) : List Call → List Answer × Manager
  | [] => ([], m)
  | c :: rest =>
    let (answer, next) := m.call c
    let (answers, last) := next.calls rest
    (answer :: answers, last)

/-- Does one thing to a manager. -/
def perform (m : Manager) : Op → Manager
  | .call c => (m.call c).2
  | .setDiscovery d => m.setDiscovery d
  | .disable finding => m.disable finding
  | .load files group only? => (m.load files group only?).state

/-- Does one thing after another to a manager. -/
def run (m : Manager) (ops : List Op) : Manager := ops.foldl perform m

/-- To do some things and then others is to do all of them. -/
theorem run_append (m : Manager) (xs ys : List Op) : m.run (xs ++ ys) = (m.run xs).run ys := by
  simp only [run, List.foldl_append]

/-! ## What calls leave alone -/

/-- Registering a plugin touches the tables of bindings and nothing else. -/
theorem registerWith_frame (m : Manager) (p : Plugin) (asked : Option String) (internal : Bool) :
    (m.registerWith p asked internal).state =
      { m with
        registry := (m.registerWith p asked internal).state.registry
        internalTable := (m.registerWith p asked internal).state.internalTable
        internalIdentities := (m.registerWith p asked internal).state.internalIdentities } := by
  simp only [registerWith]
  split
  · rfl
  · split
    · rfl
    · split <;> rfl

/-- So does taking a binding back. -/
theorem unregister_frame (m : Manager) (s : Selector) :
    (m.unregister s).state =
      { m with
        registry := (m.unregister s).state.registry
        internalTable := (m.unregister s).state.internalTable
        internalIdentities := (m.unregister s).state.internalIdentities } := by
  simp only [unregister]
  split
  · rfl
  · split
    · rfl
    · rw [dropInternal_eq]

/-- What does not look at the tables of bindings sees no difference after a call. -/
theorem call_frame {α : Type} {f : Manager → α}
    (hf : ∀ m registry internalTable internalIdentities internalBlocked,
      f { m with registry, internalTable, internalIdentities, internalBlocked } = f m)
    (m : Manager) (c : Call) : f (m.call c).2 = f m := by
  -- registering and unregistering touch the tables only, and every call comes down to them
  have hregister : ∀ p asked internal, f (m.registerWith p asked internal).state = f m := by
    intro p asked internal
    rw [registerWith_frame]
    exact hf m _ _ _ _
  have hunregister : ∀ s, f (m.unregister s).state = f m := by
    intro s
    rw [unregister_frame]
    exact hf m _ _ _ _
  cases c with
  | register p asked => exact hregister p asked false
  | registerWith p asked internal => exact hregister p asked internal
  | registerInternal p asked => exact hregister p asked true
  | unregister s => exact hunregister s
  | setBlocked name => exact (hf (m.unregister (.name name)).state _ _ _ _).trans (hunregister _)
  | addSpecs container => exact hf m _ _ _ _

/-- Nor after calls that follow one another. -/
theorem calls_frame {α : Type} {f : Manager → α}
    (hf : ∀ m registry internalTable internalIdentities internalBlocked,
      f { m with registry, internalTable, internalIdentities, internalBlocked } = f m)
    (m : Manager) (cs : List Call) : f (m.calls cs).2 = f m := by
  induction cs generalizing m with
  | nil => rfl
  | cons c rest ih => exact (ih (m.call c).2).trans (call_frame hf m c)

/-! ## Load passes -/

/-- A manager after a finding was recorded, with the objects made on the way. -/
def recordWith (m : Manager) (supply : Supply) (finding : Finding) : Manager :=
  { m with supply := supply }.record finding

/-- A finding is registered under the name it goes by. -/
theorem enroll_state (m : Manager) (finding : Finding) :
    (m.enroll finding).state = (m.register finding.plugin (some finding.name)).state := by
  simp only [enroll]
  split <;> rfl

/-- An entry point is passed over, which changes nothing, or it leads to a plugin. Then the finding
    is recorded, and the plugin is disabled if the name is blocked and registered if it is not. -/
theorem loadEntryPoint_cases (m : Manager) (resolver : Resolver) (d : Distribution)
    (e : EntryPoint) :
    ((m.loadEntryPoint resolver d e).state = m ∧ (m.loadEntryPoint resolver d e).result = false ∧
        (m.hasPlugin e.name = true ∨ (m.isBlocked e.name = true ∧ m.hasFound e.name = true) ∨
          ∃ reason, resolver.resolve m.supply e = .error reason)) ∨
      ∃ p supply, resolver.resolve m.supply e = .ok (p, supply) ∧ m.hasPlugin e.name = false ∧
        ((m.isBlocked e.name = true ∧ m.hasFound e.name = false ∧
            (m.loadEntryPoint resolver d e).result = false ∧
            (m.loadEntryPoint resolver d e).state =
              (m.recordWith supply ⟨e.name, p, d⟩).disable ⟨e.name, p, d⟩) ∨
          (m.isBlocked e.name = false ∧
            (m.loadEntryPoint resolver d e).result =
              ((m.recordWith supply ⟨e.name, p, d⟩).enroll ⟨e.name, p, d⟩).result ∧
            (m.loadEntryPoint resolver d e).state =
              ((m.recordWith supply ⟨e.name, p, d⟩).register p (some e.name)).state)) := by
  cases hbound : m.hasPlugin e.name with
  | true => exact .inl (by simp [loadEntryPoint, hbound])
  | false =>
    -- what leads nowhere is passed over, whether the name is blocked or not
    cases hres : resolver.resolve m.supply e with
    | error reason =>
      refine .inl ⟨?_, ?_, .inr (.inr ⟨reason, rfl⟩)⟩ <;>
        simp only [loadEntryPoint, hres] <;> split <;> rfl
    | ok found =>
      obtain ⟨p, supply⟩ := found
      cases hblocked : m.isBlocked e.name with
      | true =>
        -- the shortcut: under a blocked name a plugin is looked for only once
        cases hfound : m.hasFound e.name with
        | true => exact .inl (by simp [loadEntryPoint, hbound, hblocked, hfound])
        | false =>
          refine .inr ⟨p, supply, rfl, rfl, .inl ⟨rfl, rfl, ?_⟩⟩
          simp [loadEntryPoint, hbound, hblocked, hfound, hres, recordWith]
      | false =>
        refine .inr ⟨p, supply, rfl, rfl, .inr ⟨rfl, ?_⟩⟩
        simp [loadEntryPoint, hbound, hblocked, hres, recordWith, enroll_state]

/-- What loading one entry point keeps, loading many keeps. -/
theorem loadAll_of_step {P : Manager → Prop} {resolver : Resolver}
    (hstep : ∀ m d e, P m → P (m.loadEntryPoint resolver d e).state) {m : Manager} (h : P m)
    (points : List (Distribution × EntryPoint)) : P (m.loadAll resolver points).state := by
  induction points generalizing m with
  | nil => exact h
  | cons point rest ih =>
    obtain ⟨d, e⟩ := point
    exact ih (hstep m d e h)

section Keeping

variable {P : Manager → Prop}
  (hrecord : ∀ m supply finding, P m → P (m.recordWith supply finding))
  (hdisable : ∀ m finding, P m → P (m.disable finding))
  (hregister : ∀ m p asked, P m → P (m.register p asked).state)
include hrecord hdisable hregister

/-- What recording, disabling and registering keep, loading an entry point keeps. -/
theorem loadEntryPoint_induction {m : Manager} (h : P m) (resolver : Resolver) (d : Distribution)
    (e : EntryPoint) : P (m.loadEntryPoint resolver d e).state := by
  rcases loadEntryPoint_cases m resolver d e with
    ⟨hm, -⟩ | ⟨p, supply, -, -, ⟨-, -, -, hm⟩ | ⟨-, -, hm⟩⟩
  · rw [hm]
    exact h
  · rw [hm]
    exact hdisable _ _ (hrecord _ _ _ h)
  · rw [hm]
    exact hregister _ _ _ (hrecord _ _ _ h)

/-- So does loading entry points one after another. -/
theorem loadAll_induction {m : Manager} (h : P m) (resolver : Resolver)
    (points : List (Distribution × EntryPoint)) : P (m.loadAll resolver points).state :=
  loadAll_of_step (P := P)
    (fun _ d e hm => loadEntryPoint_induction hrecord hdisable hregister hm resolver d e) h points

end Keeping

/-- A load pass without a discovery changes nothing; with one it loads the entry points that it
    visits. -/
theorem load_cases (m : Manager) (files : Files) (group : String) (only? : Option String) :
    (m.discovery? = none ∧ (m.load files group only?).result = 0 ∧
        (m.load files group only?).state = m) ∨
      ∃ d, m.discovery? = some d ∧
        (m.load files group only?).result =
          (m.loadAll d.resolver
            (visited group only? (d.source.distributions files).result)).result ∧
        (m.load files group only?).state =
          (m.loadAll d.resolver
            (visited group only? (d.source.distributions files).result)).state := by
  cases hd : m.discovery? with
  | none => exact .inl (by simp [load, hd])
  | some d => exact .inr ⟨d, rfl, by simp [load, hd]⟩

/-- What loading any entry point keeps, a load pass keeps. -/
theorem load_of_step {P : Manager → Prop}
    (hstep : ∀ m resolver d e, P m → P (m.loadEntryPoint resolver d e).state) {m : Manager}
    (h : P m) (files : Files) (group : String) (only? : Option String) :
    P (m.load files group only?).state := by
  rcases load_cases m files group only? with ⟨-, -, hm⟩ | ⟨d, -, -, hm⟩
  · rw [hm]
    exact h
  · rw [hm]
    exact loadAll_of_step (P := P) (hstep · d.resolver) h _

/-! ## Invariants of runs -/

/-- What each operation of a run keeps, the run keeps. -/
theorem run_of_perform {P : Manager → Prop} {ops : List Op}
    (hop : ∀ op ∈ ops, ∀ m, P m → P (m.perform op)) {m : Manager} (h : P m) : P (m.run ops) := by
  -- induction on the run, with the manager generalized: every operation hands on a new one
  induction ops generalizing m with
  | nil => exact h
  | cons op rest ih =>
    have hfirst : P (m.perform op) := hop op List.mem_cons_self m h
    exact ih (fun op hmem => hop op (List.mem_cons_of_mem _ hmem)) hfirst

/-- What every call, every change of the discovery, and every recording and disabling of a finding
    keep holds after every run. -/
theorem run_induction {P : Manager → Prop} (hcall : ∀ m c, P m → P (m.call c).2)
    (hdiscovery : ∀ m d, P m → P (m.setDiscovery d))
    (hrecord : ∀ m supply finding, P m → P (m.recordWith supply finding))
    (hdisable : ∀ m finding, P m → P (m.disable finding))
    {m : Manager} (h : P m) (ops : List Op) : P (m.run ops) := by
  refine run_of_perform (fun op _ m hm => ?_) h
  cases op with
  | call c => exact hcall m c hm
  | setDiscovery d => exact hdiscovery m d hm
  | disable finding => exact hdisable m finding hm
  | load files group only? =>
    -- a pass is the one operation that does many things
    exact load_of_step (P := P) (fun _ resolver d e h => loadEntryPoint_induction hrecord hdisable
      (fun m p asked => hcall m (.register p asked)) h resolver d e) hm files group only?

/-- Coherence is about the tables of bindings alone. -/
theorem Coherent.congr {m n : Manager} (h : m.Coherent) (hregistry : n.registry = m.registry)
    (htable : n.internalTable = m.internalTable)
    (hidentities : n.internalIdentities = m.internalIdentities)
    (hblocked : n.internalBlocked = m.internalBlocked) : n.Coherent := by
  constructor
  · exact hregistry ▸ h.registry
  · exact htable ▸ h.nodup_internalTable
  · rw [hregistry, htable]
    exact h.plugin?_of_internal
  · rw [hidentities, htable]
    exact h.internalName_eq_some_iff
  · rw [hregistry, hblocked]
    exact h.mem_internalBlocked_iff

/-- Disabling a plugin touches the disabled ones and nothing else. -/
theorem disable_eq (m : Manager) (finding : Finding) :
    m.disable finding = { m with disabled := (m.disable finding).disabled } := by
  rw [disable]
  split <;> rfl

/-- Disabling a plugin keeps a manager coherent. -/
theorem Coherent.disable {m : Manager} (h : m.Coherent) (finding : Finding) :
    (m.disable finding).Coherent := by
  rw [disable_eq]
  exact h.congr rfl rfl rfl rfl

/-- So does recording a finding. -/
theorem Coherent.recordWith {m : Manager} (h : m.Coherent) (supply : Supply) (finding : Finding) :
    (m.recordWith supply finding).Coherent :=
  h.congr rfl rfl rfl rfl

/-- So does every call. -/
theorem Coherent.call {m : Manager} (h : m.Coherent) (c : Call) : (m.call c).2.Coherent := by
  cases c with
  | register p asked => exact h.registerWith p asked false
  | registerWith p asked internal => exact h.registerWith p asked internal
  | registerInternal p asked => exact h.registerWith p asked true
  | unregister s => exact h.unregister s
  | setBlocked name => exact h.setBlocked name
  | addSpecs container => exact h.addSpecs container

/-- So do calls that follow one another. -/
theorem Coherent.calls {m : Manager} (h : m.Coherent) (cs : List Call) :
    (m.calls cs).2.Coherent := by
  induction cs generalizing m with
  | nil => exact h
  | cons c rest ih => exact ih (h.call c)

/-- So does every run. -/
theorem Coherent.run {m : Manager} (h : m.Coherent) (ops : List Op) : (m.run ops).Coherent :=
  run_induction (fun _ c hm => hm.call c) (fun _ _ hm => hm.congr rfl rfl rfl rfl)
    (fun _ supply finding hm => hm.recordWith supply finding)
    (fun _ finding hm => hm.disable finding) h ops

/-- After every run from a new manager the tables of bindings say the same. -/
theorem coherent_run (project : String) (ops : List Op) :
    ((Manager.new project).run ops).Coherent :=
  (coherent_new project).run ops

end Manager

end Plugboard
