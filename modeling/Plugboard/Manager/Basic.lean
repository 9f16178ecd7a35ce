import Plugboard.Discovery
import Plugboard.Distribution.Meta
import Plugboard.Registry

/-!
# The plugin manager

A manager is the registry that a host works with. Some plugins are the host's own: they are bound
as all others are, so that a name is held once, but they are internal and listed apart. For these
the manager lays tables of its own over the registry's: internal plugins by name, the names of
internal objects, and the names blocked among them. Beside the bindings it keeps what discovery
found: the plugin and the distribution of each entry point, a description of it, and the plugins
that were found under a blocked name and so are disabled.

`internal_append_external_perm` says that every binding is internal or external and none is both.
-/

namespace Plugboard

/-- A plugin that was found in a distribution. -/
structure Finding where
  /-- The name of its entry point. -/
  name : String
  /-- The plugin. -/
  plugin : Plugin
  /-- The distribution that advertises it. -/
  distribution : Distribution

/-- A registry with internal plugins and the findings of discovery. -/
structure Manager where
  /-- All bindings. -/
  registry : Registry
  /-- The internal plugins by name. -/
  internalTable : List (String × Plugin) := []
  /-- The names of the internal objects. -/
  internalIdentities : List (PluginKey × String) := []
  /-- The names that no internal plugin may have. -/
  internalBlocked : List String := []
  /-- Descriptions of the plugins that were found, by name. -/
  metadata : List (String × DistMeta) := []
  /-- The plugins that were found, each name once, in the order in which they were first found. -/
  found : List Finding := []
  /-- The disabled plugins, each name once. -/
  disabled : List Finding := []
  /-- Where plugins are found. -/
  discovery? : Option Discovery := none
  /-- The plugins made so far. -/
  supply : Supply := []

namespace Manager

/-- A manager of a project without plugins. -/
def new (project : String) : Manager := { registry := .new project }

/-- Sets where plugins are found from now on. -/
def setDiscovery (m : Manager) (d : Discovery) : Manager := { m with discovery? := some d }

/-- Whether a name is blocked, for all plugins or for internal ones. -/
def isBlocked (m : Manager) (name : String) : Bool :=
  m.registry.isBlocked name || m.internalBlocked.contains name

/-- The plugin bound to a name; an internal one comes first. -/
def plugin? (m : Manager) (name : String) : Option Plugin :=
  if m.internalBlocked.contains name then none
  else Keyed.get? name m.internalTable <|> m.registry.plugin? name

/-- The name that an object is bound to. -/
def nameOf? (m : Manager) (key : PluginKey) : Option String :=
  m.registry.nameOf? key <|> Keyed.get? key m.internalIdentities

/-- Whether a name is bound. -/
def hasPlugin (m : Manager) (name : String) : Bool := (m.plugin? name).isSome

/-- Whether an object is bound. -/
def isRegistered (m : Manager) (key : PluginKey) : Bool := (m.nameOf? key).isSome

/-- Whether an object is an internal plugin. -/
def isInternal (m : Manager) (key : PluginKey) : Bool :=
  (Keyed.get? key m.internalIdentities).isSome

/-- Whether a name is held by an internal plugin. -/
def holdsInternal (m : Manager) (name : String) : Bool :=
  (Keyed.get? name m.internalTable).isSome

/-- The external bindings in the order in which they were made. -/
def externalBindings (m : Manager) : List Binding :=
  m.registry.bindings.filter fun b => !m.holdsInternal b.name

/-- The internal bindings in the order in which they were made. -/
def internalBindings (m : Manager) : List Binding :=
  m.registry.bindings.filter fun b => m.holdsInternal b.name

/-- The names of the external plugins in the order in which they were bound. -/
def names (m : Manager) : List String := m.registry.names.filter fun name => !m.holdsInternal name

/-- The names of the internal plugins in the order in which they were bound. -/
def internalNames (m : Manager) : List String := m.internalBindings.map (·.name)

/-- All bound plugins. -/
def plugins (m : Manager) : List Plugin := m.registry.plugins

/-- The internal plugins, in no order that counts. -/
def internalPlugins (m : Manager) : List Plugin := m.internalTable.map (·.2)

/-- The bound plugins that are not internal. -/
def externalPlugins (m : Manager) : List Plugin :=
  m.plugins.filter fun p => !m.internalPlugins.any (·.key = p.key)

/-- Registers a plugin, as an internal one if `internal` is set. Answers with its name, or with
    nothing where that is blocked. -/
def registerWith (m : Manager) (p : Plugin) (asked : Option String) (internal : Bool) :
    Step Manager (Except PluginError (Option String)) :=
  let name := p.registeredName asked
  match m.nameOf? p.key with
  | some existing => { result := .error (.alreadyRegistered existing), state := m }
  | none =>
    if m.isBlocked name then { result := .ok none, state := m }
    else
      let s := m.registry.register p (some name)
      match s.result with
      | .error e => { result := .error e, events := s.events, state := m }
      | .ok none => { result := .ok none, events := s.events, state := m }
      | .ok (some bound) =>
        { result := .ok (some bound)
          events := s.events ++ [.info "Plugin registered"
            [("plugin", .text bound), ("internal", .flag internal)]]
          state :=
            { m with
              registry := s.state
              internalTable :=
                if internal then Keyed.put bound p m.internalTable else m.internalTable
              internalIdentities :=
                if internal then Keyed.put p.key bound m.internalIdentities
                else m.internalIdentities } }

/-- Registers an external plugin. -/
def register (m : Manager) (p : Plugin) (asked : Option String) :
    Step Manager (Except PluginError (Option String)) :=
  m.registerWith p asked false

/-- Registers an internal plugin. -/
def registerInternal (m : Manager) (p : Plugin) (asked : Option String) :
    Step Manager (Except PluginError (Option String)) :=
  m.registerWith p asked true

/-- Takes an object out of the tables of internal plugins. -/
def dropInternal (m : Manager) (key : PluginKey) : Manager :=
  match Keyed.get? key m.internalIdentities with
  | none => m
  | some name =>
    { m with
      internalTable := Keyed.erase name m.internalTable
      internalIdentities := Keyed.erase key m.internalIdentities }

/-- Whether a selector gives a name that no internal plugin may have. -/
def refuses (m : Manager) : Selector → Bool
  | .name name => m.internalBlocked.contains name
  | .object _ => false

/-- Unregisters a plugin and its handlers. Answers with the plugin, if there was one. -/
def unregister (m : Manager) (s : Selector) : Step Manager (Option Plugin) :=
  if m.refuses s then { result := none, state := m }
  else
    let freed := m.registry.unregister s
    match freed.result with
    | none => { result := none, events := freed.events, state := m }
    | some p =>
      { result := some p
        events := freed.events
        state := { m with registry := freed.state }.dropInternal p.key }

/-- Blocks a name, and unregisters the plugin bound to it. -/
def setBlocked (m : Manager) (name : String) : Step Manager Unit :=
  let freed := m.unregister (.name name)
  let blocked := freed.state.registry.setBlocked name
  { result := ()
    events := freed.events ++ blocked.events
    state :=
      { freed.state with
        registry := blocked.state
        internalBlocked :=
          if freed.state.internalBlocked.contains name then freed.state.internalBlocked
          else freed.state.internalBlocked ++ [name] } }

/-- Adds the specifications of a container that carry the project's tag. -/
def addSpecs (m : Manager) (container : SpecContainer) : Step Manager (Except PluginError Unit) :=
  let s := m.registry.addSpecs container
  { result := s.result, events := s.events, state := { m with registry := s.state } }

/-- A hook that is specified or implemented, ready to be called. -/
def hook (m : Manager) (name : String) : Except PluginError HookCaller := m.registry.hook name

/-- Calls a hook; the first handler that fails is the outcome. -/
def invoke (m : Manager) (name : String) (args : Args) : Traced (Except PluginError (List Json)) :=
  m.registry.invoke name args

/-- Calls a hook and passes over handlers that fail. -/
def invokeLenient (m : Manager) (name : String) (args : Args) :
    Traced (Except PluginError (List Json)) :=
  match m.hook name with
  | .error e => { result := .error e }
  | .ok caller =>
    let answer := caller.callLenient args
    { result := .ok answer.result, events := answer.events }

/-- Calls a template hook and joins the results into one text. With `silent`, an unknown hook gives
    the empty text. -/
def templateHook (m : Manager) (name : String) (args : Args) (silent : Bool) :
    Traced (Except PluginError String) :=
  let answer := m.invoke name args
  { events := answer.events
    result := match answer.result with
      | .ok results => .ok (markup results)
      | .error (.unknownHook hook) => if silent then .ok "" else .error (.unknownHook hook)
      | .error e => .error e }

/-- Fails for the first hook that is implemented but not specified. -/
def checkPending (m : Manager) : Except PluginError Unit := m.registry.checkPending

/-- The hooks that a bound plugin implements. -/
def hookNames? (m : Manager) (key : PluginKey) : Option (List String) := m.registry.hookNames? key

/-- The description of a plugin that was found. -/
def metadata? (m : Manager) (name : String) : Option DistMeta := Keyed.get? name m.metadata

/-- The descriptions of all plugins that were found, in order of their names. -/
def descriptions (m : Manager) : List (String × DistMeta) := Text.sortOn (·.1) m.metadata

/-- Disables a plugin. A name that is disabled already stays as it is. -/
def disable (m : Manager) (finding : Finding) : Manager :=
  if m.disabled.any (·.name = finding.name) then m
  else { m with disabled := m.disabled ++ [finding] }

/-- Internal and external bindings together are all bindings. -/
theorem internal_append_external_perm (m : Manager) :
    (m.internalBindings ++ m.externalBindings).Perm m.registry.bindings :=
  List.filter_append_perm (fun b : Binding => m.holdsInternal b.name) m.registry.bindings

end Manager

end Plugboard
