import Plugboard.Forum.Basic
import Plugboard.Forum.Hooks
import Plugboard.Forum.Modules
import Plugboard.Forum.Portal

/-!
# Setting up the forum

A forum is made in two stages. `loadPlugins` registers the forum's own modules, blocks the disabled
plugins, runs discovery over the folder of the settings, and asks for extensions. `configure` fires
the hooks by which plugins add blueprints, translations and the rest. The first hook that fails ends
a stage.
-/

namespace Plugboard.Forum

/-- The plugins that the forum can make of entry points. -/
def resolver : Resolver :=
  .ofList [(Portal.entryPointValue, .fresh (line Portal.entryPoint) (Portal.plugin {}))]

/-- A manager with the forum's specifications, for the plugins in the folder of the settings. -/
def prepare (s : Settings) : Step Manager (Except PluginError Unit) :=
  ((Manager.new s.plugins.projectName).setDiscovery
    ⟨.folder s.plugins.directory, resolver⟩).addSpecs specs

/-- Registers modules as internal plugins, up to the first that is refused. -/
def registerModules (m : Manager) : List CoreModule → Step Manager (Except PluginError Unit)
  | [] => { result := .ok (), state := m }
  | c :: rest =>
    let (plugin, supply) := m.supply.next (line c.name) c.plugin
    let s := { m with supply := supply }.registerInternal plugin none
    match s.result with
    | .error e => { result := .error e, events := s.events, state := s.state }
    | .ok _ => (registerModules s.state rest).after s.events

/-- Blocks names one after another. -/
def blockAll (m : Manager) : List String → Step Manager Unit
  | [] => { result := (), state := m }
  | name :: rest =>
    let s := m.setBlocked name
    (blockAll s.state rest).after s.events

/-- Runs a load pass, if the settings ask for it. -/
def discover (files : Files) (s : PluginSettings) (m : Manager) : Step Manager Unit :=
  if s.autoLoad then
    let pass := m.load files s.entryPointGroup none
    { result := ()
      events := pass.events ++ [.info "Plugins discovered"
        [("group", .text s.entryPointGroup), ("loaded", .count pass.result)]]
      state := pass.state }
  else { result := (), state := m }

/-- Reports how many plugins there are of each sort. -/
def loadedEvent (m : Manager) : Event :=
  .info "Plugins loaded"
    [("external", .count m.names.length), ("internal", .count m.internalNames.length),
      ("disabled", .count m.disabled.length)]

/-- Registers the forum's modules, blocks the disabled plugins, runs discovery, and asks the plugins
    for extensions. -/
def loadPlugins (files : Files) (f : Forum) : Step Forum (Except AppError Unit) :=
  let modules := registerModules f.manager coreModules
  match modules.result with
  | .error e =>
    { result := .error e.toAppError
      events := modules.events
      state := { f with manager := modules.state } }
  | .ok () =>
    let blocked := blockAll modules.state f.settings.plugins.disabled
    let found := discover files f.settings.plugins blocked.state
    let answer := found.state.invoke "flaskbb_extensions" (.ofList [("app", .json f.describe)])
    let events := modules.events ++ blocked.events ++ found.events ++ answer.events
    match answer.result with
    | .error e =>
      { result := .error e.toAppError, events, state := { f with manager := found.state } }
    | .ok extensions =>
      { result := .ok ()
        events := events ++ [loadedEvent found.state]
        state := { f with manager := found.state, extensions } }

/-- Reports a plugin that implements a hook which nobody specified. -/
def pendingEvents (m : Manager) : List Event :=
  match m.checkPending with
  | .ok () => []
  | .error e => [.warn "Plugin implements an unknown hook" [("error", .text e.message)]]

/-- Fires a hook and lets `keep` put its results into the forum. -/
def fire (f : Forum) (hook : String) (args : Args) (keep : Forum → List Json → Forum) :
    Step Forum (Except AppError Unit) :=
  let answer := f.manager.invoke hook args
  match answer.result with
  | .error e => { result := .error e.toAppError, events := answer.events, state := f }
  | .ok results => { result := .ok (), events := answer.events, state := keep f results }

/-- Runs a stage after another, unless that failed. -/
def andThen (s : Step Forum (Except AppError Unit))
    (next : Forum → Step Forum (Except AppError Unit)) : Step Forum (Except AppError Unit) :=
  match s.result with
  | .error _ => s
  | .ok () => (next s.state).after s.events

/-- Fires the hooks by which plugins extend the forum. -/
def configure (f : Forum) : Step Forum (Except AppError Unit) :=
  let appArgs := Args.ofList [("app", .json f.describe)]
  let setupArgs := Args.ofList [("app", .json f.describe), ("pluggy", .json f.summary)]
  let blueprints := (fire f "flaskbb_load_blueprints" appArgs
    fun f results => { f with blueprints := results }).after (pendingEvents f.manager)
  let directives := andThen blueprints fun f =>
    fire f "flaskbb_jinja_directives" appArgs fun f _ => f
  let processors := andThen directives fun f =>
    fire f "flaskbb_request_processors" appArgs fun f _ => f
  let translations := andThen processors fun f =>
    fire f "flaskbb_load_translations" .empty fun f results => { f with translations := results }
  andThen translations fun f => fire f "flaskbb_additional_setup" setupArgs fun f _ => f

/-- A forum with its plugins loaded and set up. -/
def create (files : Files) (s : Settings) : Traced (Except AppError Forum) :=
  let prepared := prepare s
  match prepared.result with
  | .error e => { result := .error e.toAppError, events := prepared.events }
  | .ok () =>
    let booted := andThen
      ((loadPlugins files { settings := s, manager := prepared.state }).after prepared.events)
      configure
    { result := booted.result.map fun _ => booted.state, events := booted.events }

end Plugboard.Forum
