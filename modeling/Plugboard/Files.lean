import Plugboard.Text.Lines

/-!
# Files

A tree of folders and files, and the folder in it from which relative paths are followed. A path is
followed part by part; `.` stays and `..` goes back to the folder above.

An error has the number and the text that the system gives it.
-/

namespace Plugboard

/-- A file or a folder. -/
inductive Node where
  /-- A file with its contents. -/
  | file (contents : ByteArray)
  /-- A folder with the names of what is in it, in the order in which they are listed. -/
  | folder (entries : List (String × Node))

/-- Why a file cannot be read or a folder not be listed. -/
inductive FileError where
  | notFound
  | notFolder
  | isFolder
  | nameTooLong
  | zeroInName
  | notText
  deriving Repr, DecidableEq

/-- The text of an error. -/
def FileError.message : FileError → String
  | .notFound => "No such file or directory (os error 2)"
  | .notFolder => "Not a directory (os error 20)"
  | .isFolder => "Is a directory (os error 21)"
  | .nameTooLong => "File name too long (os error 36)"
  | .zeroInName => "file name contained an unexpected NUL byte"
  | .notText => "stream did not contain valid UTF-8"

/-- The text of a path followed by a relative path. -/
def joinPath (path more : String) : String :=
  if Text.startsWith "/" more || path = "" then more
  else if Text.endsWith "/" path then path ++ more
  else path ++ "/" ++ more

namespace Node

/-- Whether a node is a folder. -/
def isFolder : Node → Bool
  | .folder _ => true
  | .file _ => false

/-- Puts a node at the end of a path of names, with the folders on the way to it. It takes the place
    of what is there, but a folder is joined with a folder, and what that holds already stays. -/
def place (node : Node) : List String → Node → Node
  | [], .folder entries =>
    match node with
    | .folder more => .folder (entries ++ more.filter fun (n, _) => !entries.any (·.1 = n))
    | .file contents => .file contents
  | [], .file _ => node
  | name :: rest, .folder entries =>
    let child := (entries.lookup name).getD (.folder [])
    let placed := place node rest child
    if entries.any (·.1 = name) then
      .folder (entries.map fun (n, old) => if n = name then (n, placed) else (n, old))
    else .folder (entries ++ [(name, placed)])
  | name :: rest, .file _ => .folder [(name, place node rest (.folder []))]

/-- Follows the parts of a path from a node; `above` holds the folders on the way to it, the nearest
    first. -/
def walk (above : List Node) (node : Node) : List String → Except FileError Node
  | [] => .ok node
  | part :: rest =>
    match node with
    | .file _ => .error .notFolder
    | .folder entries =>
      if part = "" ∨ part = "." then walk above node rest
      else if part = ".." then
        match above with
        | parent :: more => walk more parent rest
        -- the topmost folder is its own parent
        | [] => walk [] node rest
      else if 255 < part.utf8ByteSize then .error .nameTooLong
      else match entries.lookup part with
        | some child => walk (node :: above) child rest
        | none => .error .notFound

end Node

/-- The files that a program sees. -/
structure Files where
  /-- The folder that holds everything. -/
  root : Node
  /-- The names on the way from there to the folder from which relative paths are followed. -/
  current : List String := []

namespace Files

/-- The node that a path leads to. -/
def find (files : Files) (path : String) : Except FileError Node :=
  if path.toList.contains '\x00' then .error .zeroInName
  else if path = "" then .error .notFound
  -- a path takes at most 4096 octets, the closing zero among them
  else if 4096 ≤ path.utf8ByteSize then .error .nameTooLong
  else
    let parts := Text.splitAll '/' path
    Node.walk [] files.root (if Text.startsWith "/" path then parts else files.current ++ parts)

/-- The contents of the file that a path leads to. -/
def readBytes (files : Files) (path : String) : Except FileError ByteArray :=
  match files.find path with
  | .ok (.file contents) => .ok contents
  | .ok (.folder _) => .error .isFolder
  | .error e => .error e

/-- The text of the file that a path leads to. -/
def readText (files : Files) (path : String) : Except FileError String :=
  match files.readBytes path with
  | .ok contents =>
    match String.fromUTF8? contents with
    | some s => .ok s
    | none => .error .notText
  | .error e => .error e

/-- What is in the folder that a path leads to. -/
def list (files : Files) (path : String) : Except FileError (List (String × Node)) :=
  match files.find path with
  | .ok (.folder entries) => .ok entries
  | .ok (.file _) => .error .notFolder
  | .error e => .error e

end Files

end Plugboard
