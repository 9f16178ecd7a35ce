import Plugboard.Hook.Call

/-!
# The plugin registry

A registry binds plugins to names. Neither a name nor a plugin is bound twice, and a blocked name
is never bound. Bindings are looked up by name, by object and in the order in which they were made,
each in a table of its own. Beside them a registry keeps the specifications of the project's hooks
and the handlers of the bound plugins; a handler whose hook is specified takes only parameters that
the specification offers.

A plugin that is refused leaves no trace. Every operation is a function from a registry to a `Step`
with the registry after it.
-/

namespace Plugboard

/-- A plugin bound to a name. -/
structure Binding where
  /-- The name. -/
  name : String
  /-- The plugin. -/
  plugin : Plugin

/-- Plugins by name, and their hooks. -/
structure Registry where
  /-- The tag that specifications must carry. -/
  project : String
  /-- The bound plugins by name. -/
  table : List (String × Plugin) := []
  /-- The bound names in the order in which they were bound. -/
  order : List String := []
  /-- The names of the bound objects. -/
  identities : List (PluginKey × String) := []
  /-- The names that no plugin may have, in the order in which they were blocked. -/
  blocked : List String := []
  /-- The specified hooks. -/
  specs : SpecTable := {}
  /-- The handlers of the bound plugins. -/
  hooks : HookTable := {}

namespace Registry

/-- A registry of a project without plugins. -/
def new (project : String) : Registry := { project }

/-- Whether a name is blocked. -/
def isBlocked (r : Registry) (name : String) : Bool := r.blocked.contains name

/-- The plugin bound to a name. -/
def plugin? (r : Registry) (name : String) : Option Plugin := Keyed.get? name r.table

/-- The name that an object is bound to. -/
def nameOf? (r : Registry) (key : PluginKey) : Option String := Keyed.get? key r.identities

/-- Whether a name is bound. -/
def hasPlugin (r : Registry) (name : String) : Bool := (r.plugin? name).isSome

/-- Whether an object is bound. -/
def isRegistered (r : Registry) (key : PluginKey) : Bool := (r.nameOf? key).isSome

/-- The bound names in the order in which they were bound. -/
def names (r : Registry) : List String := r.order

/-- The bindings in the order in which they were made. -/
def bindings (r : Registry) : List Binding :=
  r.order.filterMap fun name => (r.plugin? name).map (⟨name, ·⟩)

/-- The bound plugins in the order in which they were bound. -/
def plugins (r : Registry) : List Plugin := r.order.filterMap r.plugin?

/-- Refuses a handler with a parameter that its hook's specification does not offer. -/
def verify (spec : HookSpec) (plugin : String) (impl : HookImpl) : Except PluginError Unit :=
  match spec.surplus? impl.params with
  | some argument => .error (.argMismatch plugin spec.name argument spec.params)
  | none => .ok ()

/-- Refuses handlers that do not fit the specifications of their hooks; those of hooks without a
    specification pass. -/
def verifyImpls (r : Registry) (plugin : String) : List HookImpl → Except PluginError Unit
  | [] => .ok ()
  | impl :: rest =>
    match (r.specs.get? impl.hook).map (verify · plugin impl) with
    | some (.error e) => .error e
    | _ => verifyImpls r plugin rest

/-- Binds a plugin to a name that is free. -/
def bind (r : Registry) (name : String) (p : Plugin) : Registry :=
  { r with
    table := Keyed.put name p r.table
    order := r.order ++ [name]
    identities := Keyed.put p.key name r.identities
    hooks := r.hooks.registerAll (p.impls.map (⟨·, name, p.key⟩)) }

/-- Registers a plugin under the name asked for, or under the one it derives. Answers with the name,
    or with nothing where that is blocked. -/
def register (r : Registry) (p : Plugin) (asked : Option String) :
    Step Registry (Except PluginError (Option String)) :=
  let name := p.registeredName asked
  match r.nameOf? p.key with
  | some existing => { result := .error (.alreadyRegistered existing), state := r }
  | none =>
    if r.isBlocked name then
      { result := .ok none
        events := [.debug "Registration skipped, name is blocked" [("plugin", .text name)]]
        state := r }
    else if r.hasPlugin name then { result := .error (.nameConflict name), state := r }
    -- every handler is checked before anything is bound
    else match r.verifyImpls name p.impls with
      | .error e => { result := .error e, state := r }
      | .ok () =>
        let entries := p.impls.map fun impl => (⟨impl, name, p.key⟩ : HookEntry)
        { result := .ok (some name)
          events := entries.map HookTable.registerEvent ++
            [.debug "Plugin registered"
              [("plugin", .text name), ("hooks", .count p.impls.length)]]
          state := r.bind name p }

/-- Takes the plugin bound to a name out of the registry. -/
def unbind (r : Registry) (name : String) (p : Plugin) : Registry :=
  { r with
    table := Keyed.erase name r.table
    order := r.order.filter (· ≠ name)
    identities := Keyed.erase p.key r.identities
    hooks := r.hooks.unregister p.key }

/-- The name that a selector stands for. -/
def selected? (r : Registry) : Selector → Option String
  | .name name => some name
  | .object key => r.nameOf? key

/-- Unregisters a plugin and its handlers. Answers with the plugin, if there was one. -/
def unregister (r : Registry) (s : Selector) : Step Registry (Option Plugin) :=
  match r.selected? s with
  | none => { result := none, state := r }
  | some name =>
    match r.plugin? name with
    | none => { result := none, state := r }
    | some p =>
      { result := some p
        events := [.debug "Plugin unregistered" [("plugin", .text name)]]
        state := r.unbind name p }

/-- Blocks a name, and unregisters the plugin bound to it. -/
def setBlocked (r : Registry) (name : String) : Step Registry Unit :=
  let freed := r.unregister (.name name)
  if freed.state.isBlocked name then
    { result := (), events := freed.events, state := freed.state }
  else
    { result := ()
      events := freed.events ++ [.info "Plugin name blocked" [("plugin", .text name)]]
      state := { freed.state with blocked := freed.state.blocked ++ [name] } }

/-- Refuses a specification that contradicts the one there is, or that a handler does not fit. -/
def checkSpec (r : Registry) (spec : HookSpec) : Except PluginError Unit := do
  let _ ← r.specs.check spec
  (r.hooks.impls spec.name).forM fun entry => verify spec entry.plugin entry.impl

/-- Adds the specifications of a container that carry the project's tag. All are checked against the
    registry before the first is added. -/
def addSpecs (r : Registry) (container : SpecContainer) :
    Step Registry (Except PluginError Unit) :=
  let specs := container.specs.filter (·.project = r.project)
  if specs.isEmpty then
    { result := .error (.noHookSpecs r.project container.description), state := r }
  else match specs.forM r.checkSpec with
    | .error e => { result := .error e, state := r }
    | .ok () =>
      let added := r.specs.addAll specs
      let state := { r with specs := added.state }
      match added.result with
      | .error e => { result := .error e, events := added.events, state }
      | .ok () =>
        { result := .ok ()
          events := added.events ++ [.info "Hook specifications added"
            [("project", .text r.project), ("container", .text container.description),
              ("specs", .count specs.length)]]
          state }

/-- A hook that is specified or implemented, ready to be called. -/
def hook (r : Registry) (name : String) : Except PluginError HookCaller :=
  match r.specs.get? name, r.hooks.impls name with
  | none, [] => .error (.unknownHook name)
  | spec?, entries => .ok ⟨name, spec?, entries⟩

/-- Calls a hook; the first handler that fails is the outcome. -/
def invoke (r : Registry) (name : String) (args : Args) :
    Traced (Except PluginError (List Json)) :=
  match r.hook name with
  | .error e => { result := .error e }
  | .ok caller => caller.call args

/-- Fails for the first hook, in order of the names, that is implemented but not specified. -/
def checkPending (r : Registry) : Except PluginError Unit :=
  match r.hooks.hooks.find? fun hook => !r.specs.contains hook with
  | none => .ok ()
  | some hook =>
    match r.hooks.impls hook with
    | [] => .ok ()
    | entry :: _ => .error (.pendingImpl entry.plugin hook)

/-- The hooks that a bound plugin implements, in order of their names. -/
def hookNames? (r : Registry) (key : PluginKey) : Option (List String) :=
  if r.isRegistered key then some (r.hooks.hooksOf key) else none

end Registry

end Plugboard
