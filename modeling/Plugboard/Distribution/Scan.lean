import Plugboard.Distribution.Text
import Plugboard.Error
import Plugboard.Event
import Plugboard.Files
import Plugboard.Text.Order

/-!
# Distributions in a folder

Finds the distributions that are installed in a folder: the folders in it whose names end in
`.dist-info` or `.egg-info`, in order of their names. One that cannot be read is reported and passed
over.
-/

namespace Plugboard.Distribution

/-- Reads the entry points of a folder; without the file for them there are none. -/
def readEntryPoints (files : Files) (folder : String) : Except PluginError (List EntryPoint) :=
  let path := joinPath folder "entry_points.txt"
  match files.readText path with
  | .ok text => .ok (EntryPoint.ofText text)
  | .error .notFound => .ok []
  | .error e => .error (.badMetadata path e.message)

/-- Reads the distribution of a folder; `headerFile` is the file with its headers. -/
def read (files : Files) (folder headerFile : String) : Except PluginError Distribution :=
  let path := joinPath folder headerFile
  match files.readText path with
  | .error e => .error (.badMetadata path e.message)
  | .ok text => do
    let entryPoints ← readEntryPoints files folder
    match ofHeaders? (Headers.ofText text) entryPoints with
    | some d => .ok d
    | none => .error (.badMetadata path "missing Name or Version header")

/-- The file with the headers of a distribution whose folder has a name, if it is such a name. -/
def headerFile? (name : String) : Option String :=
  if Text.endsWith ".dist-info" name then some "METADATA"
  else if Text.endsWith ".egg-info" name then some "PKG-INFO"
  else none

/-- The folders of distributions among the entries of a folder, in order of their names, with the
    files that hold their headers. -/
def folders (entries : List (String × Node)) : List (String × String) :=
  Text.sortOn (·.1) (entries.filterMap fun (name, node) =>
    if node.isFolder then (headerFile? name).map (name, ·) else none)

/-- Reads the distribution of a folder and reports whether that went well. -/
def visit (files : Files) (path headerFile : String) : Traced (Option Distribution) :=
  match read files path headerFile with
  | .ok d =>
    { result := some d
      events := [.debug "Distribution found"
        [("path", .text path), ("distribution", .text d.name), ("version", .text d.version)]] }
  | .error e =>
    { result := none
      events := [.warn "Skipping distribution"
        [("path", .text path), ("error", .text e.message)]] }

/-- The distributions installed in a folder. -/
def scan (files : Files) (root : String) : Traced (List Distribution) :=
  match files.list root with
  | .error e =>
    { result := []
      events := [.warn "Plugin directory not readable"
        [("path", .text root), ("error", .text e.message)]] }
  | .ok entries =>
    let visits := (folders entries).map fun (name, headerFile) =>
      visit files (joinPath root name) headerFile
    { result := visits.filterMap (·.result), events := visits.flatMap (·.events) }

end Plugboard.Distribution
