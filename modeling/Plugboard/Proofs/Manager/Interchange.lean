import Mathlib.Data.Finset.Lattice.Lemmas
import Plugboard.Proofs.Manager.Records
import Plugboard.Proofs.Manager.Simulation

/-!
# Interchangeable managers

A manager keeps its blocked names in the order in which they were blocked, but nothing that it does
depends on that order. Two managers are interchangeable if they have the same ledger, which holds a
set of blocked names, and agree in all that the ledger leaves out. They answer every call alike, and
a load pass binds the same plugins in both and leaves them interchangeable (`Interchangeable.call`,
`Interchangeable.load`).

Names that are blocked one after another lead to interchangeable managers whenever they are the same
names, in whatever order and however often each is blocked (`interchangeable_setBlocked`).
-/

namespace Plugboard

namespace Manager

/-- Coherent managers that differ in no more than the order of what they block. -/
structure Interchangeable (m n : Manager) : Prop where
  coherent : m.Coherent
  coherent' : n.Coherent
  ledger_eq : n.ledger = m.ledger
  findings_eq : n.findings = m.findings
  discovery?_eq : n.discovery? = m.discovery?
  supply_eq : n.supply = m.supply

namespace Interchangeable

variable {m n : Manager} (h : m.Interchangeable n)
include h

/-! ## What they show -/

/-- The same names are blocked. -/
theorem isBlocked_eq : n.isBlocked = m.isBlocked := by
  funext name
  rw [(ledger_describes h.coherent').isBlocked_eq, (ledger_describes h.coherent).isBlocked_eq,
    h.ledger_eq]

/-- The same names are bound. -/
theorem hasPlugin_eq : n.hasPlugin = m.hasPlugin := by
  funext name
  rw [(ledger_describes h.coherent').hasPlugin_eq, (ledger_describes h.coherent).hasPlugin_eq,
    h.ledger_eq]

/-- The same plugins are bound, in the same order. -/
theorem bindings_eq : n.registry.bindings = m.registry.bindings := by
  rw [(ledger_describes h.coherent').bindings_eq, (ledger_describes h.coherent).bindings_eq,
    h.ledger_eq]

/-- The same external plugins are bound. -/
theorem externalBindings_eq : n.externalBindings = m.externalBindings := by
  rw [h.coherent'.externalBindings_eq, h.coherent.externalBindings_eq, h.ledger_eq]

/-- The same internal plugins are bound. -/
theorem internalBindings_eq : n.internalBindings = m.internalBindings := by
  rw [h.coherent'.internalBindings_eq, h.coherent.internalBindings_eq, h.ledger_eq]

/-- So the external names are the same. -/
theorem names_eq : n.names = m.names := by
  rw [h.coherent'.names_eq, h.coherent.names_eq, h.externalBindings_eq]

/-- The table of handlers is made of the bindings in their order. -/
theorem impls_eq (hook : String) : n.registry.hooks.impls hook = m.registry.hooks.impls hook := by
  rw [h.coherent'.registry.impls_eq, h.coherent.registry.impls_eq, Registry.offered,
    Registry.offered, h.bindings_eq]

/-- The same names are blocked for internal plugins, maybe in another order. -/
theorem mem_internalBlocked_iff (name : String) :
    name ∈ n.internalBlocked ↔ name ∈ m.internalBlocked := by
  have hblocked : n.registry.blocked.toFinset = m.registry.blocked.toFinset :=
    congrArg (·.blocked) h.ledger_eq
  rw [h.coherent'.mem_internalBlocked_iff, h.coherent.mem_internalBlocked_iff,
    ← List.mem_toFinset, hblocked, List.mem_toFinset]

/-- The same names were found. -/
theorem hasFound_eq : n.hasFound = m.hasFound := hasFound_congr h.findings_eq

/-- The same plugins were found. -/
theorem found_eq : n.found = m.found := congrArg (·.1) h.findings_eq

/-- The same plugins are disabled. -/
theorem disabled_eq : n.disabled = m.disabled := congrArg (·.2.1) h.findings_eq

/-- The same plugins are described. -/
theorem metadata_eq : n.metadata = m.metadata := congrArg (·.2.2) h.findings_eq

/-! ## What is done to them -/

/-- A call is answered alike. -/
theorem call (c : Call) :
    (n.call c).1 = (m.call c).1 ∧ (m.call c).2.Interchangeable (n.call c).2 := by
  -- both answers, and both ledgers, are those of the common ledger
  have hcall := h.coherent'.ledger_call c
  rw [h.ledger_eq, h.coherent.ledger_call c] at hcall
  obtain ⟨hanswer, hledger⟩ := Prod.mk.inj hcall
  -- the rest is left alone
  have hdiscovery : ∀ k : Manager, (k.call c).2.discovery? = k.discovery? :=
    fun k => call_frame (fun _ _ _ _ _ => rfl) k c
  have hsupply : ∀ k : Manager, (k.call c).2.supply = k.supply :=
    fun k => call_frame (fun _ _ _ _ _ => rfl) k c
  refine ⟨hanswer.symm, h.coherent.call c, h.coherent'.call c, hledger.symm, ?_, ?_, ?_⟩
  · rw [findings_call, findings_call, h.findings_eq]
  · rw [hdiscovery, hdiscovery, h.discovery?_eq]
  · rw [hsupply, hsupply, h.supply_eq]

/-- Registering has the same result and leaves managers interchangeable. -/
theorem register (p : Plugin) (asked : Option String) :
    (n.register p asked).result = (m.register p asked).result ∧
      (m.register p asked).state.Interchangeable (n.register p asked).state := by
  obtain ⟨hanswer, hstate⟩ := h.call (.register p asked)
  exact ⟨Answer.registered.inj hanswer, hstate⟩

/-- Recording a finding leaves them interchangeable. -/
theorem recordWith (supply : Supply) (finding : Finding) :
    (m.recordWith supply finding).Interchangeable (n.recordWith supply finding) := by
  -- the ledger has no part in it, and the findings were the same
  have hfound : (n.recordWith supply finding).found = (m.recordWith supply finding).found := by
    rw [found_recordWith, found_recordWith, h.hasFound_eq, h.found_eq]
  have hdisabled : (n.recordWith supply finding).disabled =
      (m.recordWith supply finding).disabled := h.disabled_eq
  have hmetadata : (n.recordWith supply finding).metadata =
      (m.recordWith supply finding).metadata := congrArg (Keyed.put finding.name _) h.metadata_eq
  refine ⟨h.coherent.recordWith supply finding, h.coherent'.recordWith supply finding,
    h.ledger_eq, ?_, h.discovery?_eq, rfl⟩
  rw [findings, findings, hfound, hdisabled, hmetadata]

/-- Disabling a plugin leaves them interchangeable. -/
theorem disable (finding : Finding) :
    (m.disable finding).Interchangeable (n.disable finding) := by
  -- the ledger has no part in it, and the disabled plugins were the same
  have hdisabled : (n.disable finding).disabled = (m.disable finding).disabled := by
    simp only [Manager.disable, h.disabled_eq]
    split <;> simp only [h.disabled_eq]
  refine ⟨h.coherent.disable finding, h.coherent'.disable finding, ?_, ?_, ?_, ?_⟩ <;>
    rw [disable_eq n, disable_eq m]
  · exact h.ledger_eq
  · rw [findings, findings, hdisabled, h.found_eq, h.metadata_eq]
  · exact h.discovery?_eq
  · exact h.supply_eq

/-- Enrolling a finding binds it in both or in neither. -/
theorem enroll (finding : Finding) :
    (n.enroll finding).result = (m.enroll finding).result ∧
      (m.enroll finding).state.Interchangeable (n.enroll finding).state := by
  obtain ⟨hresult, hstate⟩ := h.register finding.plugin (some finding.name)
  refine ⟨?_, ?_⟩
  · simp only [Manager.enroll, hresult]
    split <;> rfl
  · rw [enroll_state, enroll_state]
    exact hstate

/-- An entry point is passed over, disabled or registered in both. -/
theorem loadEntryPoint (resolver : Resolver) (d : Distribution) (e : EntryPoint) :
    (n.loadEntryPoint resolver d e).result = (m.loadEntryPoint resolver d e).result ∧
      (m.loadEntryPoint resolver d e).state.Interchangeable
        (n.loadEntryPoint resolver d e).state := by
  -- what is asked about the name, and what is made, is the same, so both take the same branch
  simp only [Manager.loadEntryPoint, h.hasPlugin_eq, h.isBlocked_eq, h.hasFound_eq, h.supply_eq]
  split
  · exact ⟨rfl, h⟩
  · cases resolver.resolve m.supply e with
    | error reason => exact ⟨rfl, h⟩
    | ok found =>
      obtain ⟨p, supply⟩ := found
      have hrecorded := h.recordWith supply ⟨e.name, p, d⟩
      simp only
      split
      · exact ⟨rfl, hrecorded.disable ⟨e.name, p, d⟩⟩
      · exact hrecorded.enroll ⟨e.name, p, d⟩

/-- A pass over some entry points counts the same in both and leaves them interchangeable. -/
theorem loadAll (resolver : Resolver) (points : List (Distribution × EntryPoint)) :
    (n.loadAll resolver points).result = (m.loadAll resolver points).result ∧
      (m.loadAll resolver points).state.Interchangeable (n.loadAll resolver points).state := by
  -- every entry point hands on two other managers, so the induction is over all pairs
  induction points generalizing m n with
  | nil => exact ⟨rfl, h⟩
  | cons point rest ih =>
    obtain ⟨d, e⟩ := point
    obtain ⟨hresult, hstate⟩ := h.loadEntryPoint resolver d e
    obtain ⟨hcount, hlast⟩ := ih hstate
    refine ⟨?_, hlast⟩
    simp only [Manager.loadAll, hresult, hcount]

/-- A load pass binds as many plugins. -/
theorem load (files : Files) (group : String) (only? : Option String) :
    (n.load files group only?).result = (m.load files group only?).result ∧
      (m.load files group only?).state.Interchangeable (n.load files group only?).state := by
  simp only [Manager.load, h.discovery?_eq]
  cases m.discovery? with
  | none => exact ⟨rfl, h⟩
  | some discovery => exact h.loadAll discovery.resolver _

end Interchangeable

end Manager

/-! ## Blocking one name after another -/

/-- On a ledger, blocking names takes out all their entries and adds them to the set of blocked
    names. -/
theorem Ledger.calls_setBlocked (l : Ledger) (names : List String) :
    (l.calls (names.map .setBlocked)).2 =
      { l with
        entries := l.entries.filter (·.name ∉ names)
        blocked := l.blocked ∪ names.toFinset } := by
  -- each name takes out its entries from those that the names before it left
  induction names generalizing l with
  | nil => simp [Ledger.calls]
  | cons name rest ih =>
    have hstep : (l.calls ((name :: rest).map .setBlocked)).2 =
        ((l.setBlocked name).calls (rest.map .setBlocked)).2 := rfl
    have hblocked : insert name l.blocked ∪ rest.toFinset =
        l.blocked ∪ (name :: rest).toFinset := by
      rw [List.toFinset_cons, Finset.insert_union, Finset.union_insert]
    rw [hstep, ih, Ledger.setBlocked, filter_not_mem_cons, hblocked]

/-- Only the set of the names counts. -/
theorem Ledger.calls_setBlocked_congr (l : Ledger) {xs ys : List String}
    (hnames : ∀ name, name ∈ xs ↔ name ∈ ys) :
    (l.calls (xs.map .setBlocked)).2 = (l.calls (ys.map .setBlocked)).2 := by
  have hset : xs.toFinset = ys.toFinset := List.toFinset.ext hnames
  simp only [calls_setBlocked, hset, hnames]

namespace Manager

/-- To block the same names in another order, or some of them more than once, leads to an
    interchangeable manager. -/
theorem interchangeable_setBlocked {m : Manager} (h : m.Coherent) {xs ys : List String}
    (hnames : ∀ name, name ∈ xs ↔ name ∈ ys) :
    (m.calls (xs.map .setBlocked)).2.Interchangeable (m.calls (ys.map .setBlocked)).2 := by
  -- the calls are made on the ledger, where their order cannot be seen
  have hledger : ∀ cs, (m.calls cs).2.ledger = (m.ledger.calls cs).2 := fun cs =>
    (congrArg Prod.snd (h.ledger_calls cs)).symm
  refine ⟨h.calls _, h.calls _, ?_, ?_, ?_, ?_⟩
  · rw [hledger, hledger, m.ledger.calls_setBlocked_congr hnames]
  · rw [calls_frame (f := findings) (fun _ _ _ _ _ => rfl),
      calls_frame (f := findings) (fun _ _ _ _ _ => rfl)]
  · rw [calls_frame (f := discovery?) (fun _ _ _ _ _ => rfl),
      calls_frame (f := discovery?) (fun _ _ _ _ _ => rfl)]
  · rw [calls_frame (f := supply) (fun _ _ _ _ _ => rfl),
      calls_frame (f := supply) (fun _ _ _ _ _ => rfl)]

end Manager

end Plugboard
