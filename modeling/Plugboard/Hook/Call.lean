import Plugboard.Hook.Spec
import Plugboard.Hook.Table

/-!
# Calling a hook

A call walks the handlers of a hook in order. Each is given the arguments that it declares. `call`
stops at the first handler that fails or lacks an argument; `callLenient` reports it and goes on.
What handlers leave out is not among the results.
-/

namespace Plugboard

/-- A hook ready to be called. -/
structure HookCaller where
  /-- The hook. -/
  name : String
  /-- Its specification, unless it is only implemented. -/
  spec? : Option HookSpec
  /-- Its handlers in the order in which they are called. -/
  entries : List HookEntry

namespace HookCaller

/-- Calls one handler. -/
def callOne (hook : String) (entry : HookEntry) (args : Args) :
    Traced (Except PluginError (Option Json)) :=
  match args.select entry.impl.params with
  | .error argument => { result := .error (.missingArgument hook entry.plugin argument) }
  | .ok selected =>
    let answer := entry.impl.handler selected
    { result := answer.result.mapError (.handlerFailed hook entry.plugin ·)
      events := answer.events }

/-- Calls handlers in order, up to the first that fails. -/
def callAll (hook : String) (args : Args) : List HookEntry → Traced (Except PluginError (List Json))
  | [] => { result := .ok [] }
  | entry :: rest =>
    let first := callOne hook entry args
    match first.result with
    -- the handlers that come after are not called
    | .error e => { result := .error e, events := first.events }
    | .ok value =>
      let more := callAll hook args rest
      { result := more.result.map (value.toList ++ ·), events := first.events ++ more.events }

/-- Calls handlers in order and passes over those that fail. -/
def callEach (hook : String) (args : Args) : List HookEntry → Traced (List Json)
  | [] => { result := [] }
  | entry :: rest =>
    let first := callOne hook entry args
    let more := callEach hook args rest
    match first.result with
    | .error e =>
      { result := more.result
        events := first.events ++ .warn "Hook handler failed, skipping"
          [("hook", .text hook), ("plugin", .text entry.plugin), ("error", .text e.message)] ::
            more.events }
    | .ok value => { result := value.toList ++ more.result, events := first.events ++ more.events }

/-- The parameters of the specification that a call does not pass. -/
def missing (caller : HookCaller) (args : Args) : List String :=
  match caller.spec? with
  | some spec => spec.params.filter fun p => !args.contains p
  | none => []

/-- What a call reports before any handler runs. -/
def opening (caller : HookCaller) (args : Args) : List Event :=
  let missing := caller.missing args
  let dispatch := Event.debug "Dispatching hook"
    [("hook", .text caller.name), ("handler_count", .count caller.entries.length)]
  if missing.isEmpty then [dispatch]
  else [.warn "Hook called without arguments declared in its specification"
      [("hook", .text caller.name), ("missing", .text (Text.quoteList missing))], dispatch]

/-- Calls every handler; the first failure is the outcome. -/
def call (caller : HookCaller) (args : Args) : Traced (Except PluginError (List Json)) :=
  let walk := callAll caller.name args caller.entries
  { walk with events := caller.opening args ++ walk.events }

/-- Calls every handler and passes over those that fail. -/
def callLenient (caller : HookCaller) (args : Args) : Traced (List Json) :=
  let walk := callEach caller.name args caller.entries
  { walk with events := caller.opening args ++ walk.events }

/-- The plugins whose handlers are called, in order. -/
def plugins (caller : HookCaller) : List String := caller.entries.map (·.plugin)

end HookCaller

/-- The results of a template hook as one text: texts as they are, other values as JSON text. -/
def markup (results : List Json) : String :=
  String.join (results.map fun v => v.canonical.shown)

end Plugboard
