import Plugboard.Hook.Call
import Plugboard.Proofs.Hook.Arguments

/-!
# Handlers that fail

A handler fails if it declares an argument that is not passed, or if it answers with an error
(`HookEntry.failure?`); otherwise it may have a value for the caller (`HookEntry.value?`). The two
ways to call a hook are told by these alone: `call` has the values of all handlers, or else the
first failure (`call_result`), and `callLenient` has the values of the handlers that do not fail
(`callLenient_result`).

So the two agree up to the first failure, and one goes on where the other stops.
-/

namespace Plugboard

namespace HookEntry

/-- Why calling a handler fails, if it does: of the arguments that it declares the first that is not
    passed, or else the error that it answers with. -/
def failure? (hook : String) (args : Args) (entry : HookEntry) : Option PluginError :=
  match entry.impl.params.find? fun param => !args.contains param with
  | some param => some (.missingArgument hook entry.plugin param)
  | none =>
    match (entry.impl.handler (args.restrict entry.impl.params)).result with
    | .error e => some (.handlerFailed hook entry.plugin e)
    | .ok _ => none

/-- The value that a handler has for its caller, if it is passed what it declares. -/
def value? (args : Args) (entry : HookEntry) : Option Json :=
  if entry.impl.params.all args.contains then
    match (entry.impl.handler (args.restrict entry.impl.params)).result with
    | .error _ => none
    | .ok value => value
  else none

/-- A handler that fails has no value. -/
theorem value?_of_failure? {hook : String} {args : Args} {entry : HookEntry} {e : PluginError}
    (h : entry.failure? hook args = some e) : entry.value? args = none := by
  unfold failure? at h
  unfold value?
  split at h
  · -- what is missing is also missing from all that is declared
    rename_i param hparam
    have hmissing : ¬entry.impl.params.all args.contains := by
      intro hall
      have hpassed := List.all_eq_true.1 hall param (List.mem_of_find?_eq_some hparam)
      have habsent := List.find?_some hparam
      simp [hpassed] at habsent
    rw [if_neg hmissing]
  · split at h
    · exact ite_self none
    · cases h

end HookEntry

namespace HookCaller

/-! ## One handler -/

/-- A handler is passed exactly what it declares, unless something of that is missing. -/
theorem callOne_eq (hook : String) (entry : HookEntry) (args : Args) :
    callOne hook entry args =
      match entry.impl.params.find? fun param => !args.contains param with
      | some param => { result := .error (.missingArgument hook entry.plugin param) }
      | none =>
        let answer := entry.impl.handler (args.restrict entry.impl.params)
        { result := answer.result.mapError (.handlerFailed hook entry.plugin ·)
          events := answer.events } := by
  rw [callOne, args.select_eq]
  cases entry.impl.params.find? fun param => !args.contains param <;> rfl

/-- One handler gives its failure, or else its value. -/
theorem callOne_result (hook : String) (entry : HookEntry) (args : Args) :
    (callOne hook entry args).result = match entry.failure? hook args with
      | some e => .error e
      | none => .ok (entry.value? args) := by
  rw [callOne_eq]
  -- both sides look for the first argument that is missing
  unfold HookEntry.failure? HookEntry.value?
  cases hparam : entry.impl.params.find? fun param => !args.contains param with
  | some param => rfl
  | none =>
    have hall : entry.impl.params.all args.contains := by
      simpa [List.find?_eq_none] using hparam
    rw [if_pos hall]
    dsimp only
    cases (entry.impl.handler (args.restrict entry.impl.params)).result <;> rfl

/-! ## All handlers -/

/-- Handlers called in turn give the first failure, or else all values. -/
theorem callAll_result (hook : String) (args : Args) (entries : List HookEntry) :
    (callAll hook args entries).result = match entries.findSome? (·.failure? hook args) with
      | some e => .error e
      | none => .ok (entries.filterMap (·.value? args)) := by
  induction entries with
  | nil => rfl
  | cons entry rest ih =>
    have hfirst := callOne_result hook entry args
    rw [callAll, List.findSome?_cons]
    cases hfailure : entry.failure? hook args with
    | some e =>
      -- the walk ends here, and so does the search for the first failure
      simp only [hfailure] at hfirst
      simp only [hfirst]
    | none =>
      simp only [hfailure] at hfirst
      simp only [hfirst, ih]
      cases rest.findSome? (·.failure? hook args) with
      | some e => rfl
      | none => cases hvalue : entry.value? args <;> simp [Except.map, hvalue]

/-- Handlers called one and all give the values of those that do not fail. -/
theorem callEach_result (hook : String) (args : Args) (entries : List HookEntry) :
    (callEach hook args entries).result = entries.filterMap (·.value? args) := by
  induction entries with
  | nil => rfl
  | cons entry rest ih =>
    have hfirst := callOne_result hook entry args
    rw [callEach]
    cases hfailure : entry.failure? hook args with
    | some e =>
      -- here the walk goes on, and a handler that fails adds nothing
      simp only [hfailure] at hfirst
      simp only [hfirst, ih, List.filterMap_cons, HookEntry.value?_of_failure? hfailure]
    | none =>
      simp only [hfailure] at hfirst
      simp only [hfirst, ih]
      cases hvalue : entry.value? args <;> simp [hvalue]

variable (caller : HookCaller) (args : Args)

/-- A strict call has the first failure, or the values if there is none. -/
theorem call_result :
    (caller.call args).result =
      match caller.entries.findSome? (·.failure? caller.name args) with
      | some e => .error e
      | none => .ok (caller.entries.filterMap (·.value? args)) :=
  callAll_result caller.name args caller.entries

/-- A lenient call has the values, whether or not there is a failure. -/
theorem callLenient_result :
    (caller.callLenient args).result = caller.entries.filterMap (·.value? args) :=
  callEach_result caller.name args caller.entries

/-- A call succeeds if no handler fails. -/
theorem call_eq_ok_iff {values : List Json} :
    (caller.call args).result = .ok values ↔
      (∀ entry ∈ caller.entries, entry.failure? caller.name args = none) ∧
        caller.entries.filterMap (·.value? args) = values := by
  rw [call_result, ← List.findSome?_eq_none_iff]
  cases caller.entries.findSome? (·.failure? caller.name args) <;> simp

/-- It fails with the first failure of a handler. -/
theorem call_eq_error_iff {e : PluginError} :
    (caller.call args).result = .error e ↔
      caller.entries.findSome? (·.failure? caller.name args) = some e := by
  rw [call_result]
  cases caller.entries.findSome? (·.failure? caller.name args) <;> simp

/-- The same hook with other handlers. -/
def withEntries (entries : List HookEntry) : HookCaller := { caller with entries }

/-- A strict call succeeds if and only if no handler fails, and then a lenient call has the same
    values. Otherwise its error is that of the first handler that fails; a lenient call has what a
    strict call of the handlers before that one has, followed by what a lenient call of those after
    it has. -/
theorem strict_agrees_with_lenient :
    (∀ values, (caller.call args).result = .ok values ↔
        (∀ entry ∈ caller.entries, entry.failure? caller.name args = none) ∧
          (caller.callLenient args).result = values) ∧
      (∀ e, (caller.call args).result = .error e ↔
        ∃ before entry after, caller.entries = before ++ entry :: after ∧
          (∀ earlier ∈ before, earlier.failure? caller.name args = none) ∧
          entry.failure? caller.name args = some e) ∧
      (∀ before entry after, caller.entries = before ++ entry :: after →
        (∀ earlier ∈ before, earlier.failure? caller.name args = none) →
        entry.failure? caller.name args ≠ none →
          ∃ values, ((caller.withEntries before).call args).result = .ok values ∧
            (caller.callLenient args).result =
              values ++ ((caller.withEntries after).callLenient args).result) ∧
      (caller.callLenient args).result = caller.entries.filterMap (·.value? args) := by
  refine ⟨fun values => ?_, fun e => ?_, ?_, caller.callLenient_result args⟩
  · rw [call_eq_ok_iff, callLenient_result]
  · rw [call_eq_error_iff, List.findSome?_eq_some_iff]
    constructor
    · rintro ⟨before, entry, after, hsplit, hfails, hbefore⟩
      exact ⟨before, entry, after, hsplit, hbefore, hfails⟩
    · rintro ⟨before, entry, after, hsplit, hbefore, hfails⟩
      exact ⟨before, entry, after, hsplit, hfails, hbefore⟩
  · intro before entry after hsplit hbefore hfails
    obtain ⟨e, he⟩ := Option.ne_none_iff_exists'.1 hfails
    refine ⟨before.filterMap (·.value? args), ?_, ?_⟩
    · exact ((caller.withEntries before).call_eq_ok_iff args).2 ⟨hbefore, rfl⟩
    · -- the handler that fails has no value, so nothing is lost between the two parts
      rw [callLenient_result, callLenient_result, hsplit, List.filterMap_append,
        List.filterMap_cons, HookEntry.value?_of_failure? he]
      rfl

/-- The third of four handlers asks for a user who is not there. The strict call stops before the
    fourth, which fails in its own way; the lenient call has the one value that there is. -/
theorem strict_agrees_with_lenient_unasked :
    let portal : HookEntry := ⟨.constant "menu" [] (.str "Portal"), "portal", ⟨"portal", 0⟩⟩
    let silent : HookEntry :=
      ⟨⟨"menu", [], fun _ => { result := .ok none }⟩, "silent", ⟨"silent", 0⟩⟩
    let asking : HookEntry := ⟨.constant "menu" ["user"] .null, "asking", ⟨"asking", 0⟩⟩
    let broken : HookEntry :=
      ⟨⟨"menu", [], fun _ => { result := .error (.notFound "boom") }⟩, "broken", ⟨"broken", 0⟩⟩
    let caller : HookCaller := ⟨"menu", none, [portal, silent, asking, broken]⟩
    (∀ earlier ∈ [portal, silent], earlier.failure? "menu" .empty = none) ∧
      asking.failure? "menu" .empty ≠ none ∧
      ∃ values, ((caller.withEntries [portal, silent]).call .empty).result = .ok values ∧
        (caller.callLenient .empty).result =
          values ++ ((caller.withEntries [broken]).callLenient .empty).result := by
  intro portal silent asking broken caller
  have hbefore : ∀ earlier ∈ [portal, silent], earlier.failure? "menu" .empty = none :=
    List.forall_mem_cons.2 ⟨rfl, List.forall_mem_singleton.2 rfl⟩
  have hfails : asking.failure? "menu" .empty ≠ none := Option.some_ne_none _
  exact ⟨hbefore, hfails, (strict_agrees_with_lenient caller .empty).2.2.1 [portal, silent] asking
    [broken] rfl hbefore hfails⟩

end HookCaller

end Plugboard
