import Plugboard.Command.Run

/-!
# The program

Reads what a command line needs from the disk and from the environment, and prints what it leads to.
-/

namespace Plugboard.Program

/-- The names on the way from the root folder to what a path leads to. -/
def placeOf (current : List String) (path : String) : List String :=
  let parts := Text.splitAll '/' path
  (if Text.startsWith "/" path then parts else current ++ parts).foldl (fun above part =>
    if part = "" ∨ part = "." then above
    else if part = ".." then above.dropLast
    else above ++ [part]) []

/-- The names and paths of what is in the folder at a path, if there is one. -/
def listing? (path : String) : IO (Option (List (String × String))) := do
  let listing : IO (List (String × String)) := do
    let found ← (← IO.FS.realPath path).readDir
    return found.toList.map fun entry => (entry.fileName, entry.path.toString)
  match ← listing.toBaseIO with
  | .error _ => return none
  | .ok entries => return some entries

/-- A file, or a folder with what is in it to a depth, if there is one at a path. -/
def snapshot? : Nat → String → IO (Option Node)
  | depth, path => do
    match ← (IO.FS.readBinFile path).toBaseIO, ← listing? path, depth with
    | .ok contents, _, _ => return some (.file contents)
    | .error _, none, _ => return none
    | .error _, some _, 0 => return some (.folder [])
    | .error _, some entries, depth + 1 =>
      let found ← entries.mapM fun (name, path) => do
        return (name, ← snapshot? depth path)
      return some (.folder (found.filterMap fun (name, node?) => node?.map (name, ·)))

/-- Files with what is at a path added to them. -/
def addPath (files : Files) (depth : Nat) (path : String) : IO Files := do
  match ← snapshot? depth path with
  | some node => return { files with root := .place node (placeOf files.current path) files.root }
  | none => return files

/-- The environment variables of this process. -/
def environment : IO (List (String × String)) := do
  match ← (IO.FS.readBinFile "/proc/self/environ").toBaseIO with
  | .error _ => return []
  | .ok contents => return (Text.splitAll '\x00' (Text.ofBytes contents)).filterMap (Text.cut? '=')

/-- How the program is used. -/
def usage : String :=
  "Usage: plugboard [-c FILE] [-f table|json] COMMAND\n\n" ++
    "Commands:\n  plugins list [--internal]\n  plugins info NAME\n  plugins hooks\n" ++
    "  config show\n  config validate"

/-- Answers a command line that is not run. -/
def refuse (e : Command.UsageError) : IO UInt32 := do
  match e with
  | .help => IO.println usage
  | .version => IO.println ("plugboard " ++ Forum.version)
  | _ => IO.eprintln usage
  return e.exitCode.toUInt32

/-- The files that a request needs. -/
def filesFor (r : Command.Request) (env : List (String × String)) : IO Files := do
  let current := placeOf [] (← IO.currentDir).toString
  let empty : Files := { root := .place (.folder []) current (.folder []), current }
  let path := Config.absolutePath empty r.configPath
  let paths := path :: (Config.completions path.toList).map (·.1)
  let files ← paths.foldlM (addPath · 0 ·) empty
  match Config.load files env [r.configPath] with
  | .ok s => addPath files 2 s.plugins.directory
  | .error _ => return files

/-- Runs a command line. -/
def run (words : List String) : IO UInt32 := do
  match Command.Request.ofWords words with
  | .error e => refuse e
  | .ok r =>
    let env ← environment
    match Command.run (← filesFor r env) env words with
    | .error e => refuse e
    | .ok outcome =>
      IO.print (Command.unlines outcome.out)
      IO.eprint (Command.unlines outcome.err)
      return outcome.code.toUInt32

end Plugboard.Program

/-- The program: runs its command line. -/
def main (words : List String) : IO UInt32 := Plugboard.Program.run words
