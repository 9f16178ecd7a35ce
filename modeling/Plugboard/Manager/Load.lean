import Plugboard.Manager.Basic

/-!
# Load passes

A load pass walks the installed distributions and registers a plugin for each of their entry points
in a group. Entry points whose names are bound already are passed over. What an entry point with an
empty name leads to is bound under a name of its own, so it is not passed over, and a further pass
may bind a new object for it. An entry point that cannot be resolved or registered is reported and
passed over. A plugin found under a blocked name is not registered but disabled, unless one was
found under the name before: then it is passed over.
-/

namespace Plugboard.Manager

/-- Whether a plugin was found under a name. -/
def hasFound (m : Manager) (name : String) : Bool := m.found.any (·.name = name)

/-- Records a finding and its description, in place of what was recorded for its name. -/
def record (m : Manager) (finding : Finding) : Manager :=
  { m with
    found :=
      if m.hasFound finding.name then
        m.found.map fun f => if f.name = finding.name then finding else f
      else m.found ++ [finding]
    metadata :=
      Keyed.put finding.name (.ofDistribution finding.name finding.distribution) m.metadata }

/-- Registers a finding that was recorded. Answers whether a plugin was bound. -/
def enroll (m : Manager) (finding : Finding) : Step Manager Bool :=
  let s := m.register finding.plugin (some finding.name)
  match s.result with
  | .ok (some _) =>
    { result := true
      events := s.events ++ [.info "Plugin loaded"
        [("plugin", .text finding.name), ("distribution", .text finding.distribution.name),
          ("version", .text finding.distribution.version)]]
      state := s.state }
  | .ok none => { result := false, events := s.events, state := s.state }
  | .error e =>
    { result := false
      events := s.events ++ [.error "Failed to register plugin"
        [("plugin", .text finding.name), ("error", .text e.message)]]
      state := s.state }

/-- Loads the plugin of an entry point. Answers whether a plugin was bound. -/
def loadEntryPoint (m : Manager) (resolver : Resolver) (d : Distribution) (e : EntryPoint) :
    Step Manager Bool :=
  let blocked := m.isBlocked e.name
  if m.hasPlugin e.name || blocked && m.hasFound e.name then { result := false, state := m }
  else match resolver.resolve m.supply e with
    | .error reason =>
      { result := false
        events := [.error "Failed to load plugin"
          [("plugin", .text e.name), ("distribution", .text d.name),
            ("error", .text reason.message)]]
        state := m }
    | .ok (plugin, supply) =>
      let finding : Finding := { name := e.name, plugin, distribution := d }
      -- what was found is on record even where nothing is bound
      let recorded := { m with supply := supply }.record finding
      if blocked then
        { result := false
          events := [.info "Plugin is disabled, not registering" [("plugin", .text e.name)]]
          state := recorded.disable finding }
      else recorded.enroll finding

/-- Whether an entry point belongs to a group and, where a name is asked for, has that name. -/
def wanted (group : String) (only? : Option String) (e : EntryPoint) : Bool :=
  e.group = group && (match only? with
    | some name => e.name = name
    | none => true)

/-- The entry points of some distributions that a load pass visits, in order. -/
def visited (group : String) (only? : Option String) (ds : List Distribution) :
    List (Distribution × EntryPoint) :=
  ds.flatMap fun d => (d.entryPoints.filter (wanted group only?)).map (d, ·)

/-- Loads entry points one after another. Answers how many plugins were bound. -/
def loadAll (m : Manager) (resolver : Resolver) :
    List (Distribution × EntryPoint) → Step Manager Nat
  | [] => { result := 0, state := m }
  | (d, e) :: rest =>
    let s := m.loadEntryPoint resolver d e
    let more := loadAll s.state resolver rest
    { result := (if s.result then 1 else 0) + more.result
      events := s.events ++ more.events
      state := more.state }

/-- Runs a load pass over a group of entry points, or over the one with a name in it. Answers how
    many plugins were bound. -/
def load (m : Manager) (files : Files) (group : String) (only? : Option String) :
    Step Manager Nat :=
  match m.discovery? with
  | none =>
    { result := 0
      events := [.warn "No plugin discovery configured" [("group", .text group)]]
      state := m }
  | some discovery =>
    let installed := discovery.source.distributions files
    let s := m.loadAll discovery.resolver (visited group only? installed.result)
    { result := s.result
      events := installed.events ++ s.events ++ [.debug "Entry-point pass finished"
        [("group", .text group), ("registered", .count s.result)]]
      state := s.state }

end Plugboard.Manager
