import Plugboard.Config.FileFormat
import Plugboard.Files

/-!
# Finding files of settings

A path stands for the very file it names; the format is told by the ending of the name. If there is
no such file, the endings of all formats are tried in turn, behind the whole name. The first that
names a file counts.
-/

namespace Plugboard.Config

/-- The last part of a path. -/
def fileName (path : List Char) : List Char := (path.reverse.takeWhile (· ≠ '/')).reverse

/-- The characters of a reversed path without the slashes and the parts `.` at its end. -/
def dropSlashes : List Char → List Char
  | '/' :: rest => dropSlashes rest
  | '.' :: '/' :: rest => dropSlashes rest
  | cs => cs

/-- A path without the slashes and the parts `.` at its end. -/
def trimPath (path : List Char) : List Char := (dropSlashes path.reverse).reverse

/-- The ending of a name: what follows its last point, unless that is its first character. -/
def ending? (name : List Char) : Option (List Char) :=
  if (name.drop 1).contains '.' then some (name.reverse.takeWhile (· ≠ '.')).reverse else none

/-- What the endings of formats are put behind, if a path leads to a name. -/
def stem? (path : List Char) : Option (List Char) :=
  let trimmed := trimPath path
  let name := fileName trimmed
  if name = [] ∨ name = ['.', '.'] then none
  -- a name with an ending is completed where the path ends, be it behind a slash or a part `.`
  else if (ending? name).isSome then
    some (if path.getLast? = some '/' then path ++ ".placeholder".toList else path)
  else some trimmed

/-- The paths that a path may stand for besides itself, with the formats of what they lead to. -/
def completions (path : List Char) : List (String × FileFormat) :=
  match stem? path with
  | some stem => FileFormat.endings.map fun (ending, format) =>
    (.ofList (stem ++ '.' :: ending.toList), format)
  | none => []

/-- A path that begins at the root folder. -/
def absolutePath (files : Files) (path : String) : String :=
  if Text.startsWith "/" path then path
  else joinPath ("/" ++ Text.joinWith "/" files.current) path

/-- The text of settings that a path stands for, as bytes, and its format. -/
def findSettings? (files : Files) (path : String) : Option (FileFormat × ByteArray) :=
  let path := absolutePath files path
  match files.readBytes path with
  -- a file that is there under the very name counts only if the name tells a format
  | .ok contents => do
    let ending ← ending? (fileName path.toList)
    return (← FileFormat.endings.lookup (.ofList ending), contents)
  | .error _ =>
    (completions path.toList).findSome? fun (path, format) =>
      match files.readBytes path with
      | .ok contents => some (format, contents)
      | .error _ => none

end Plugboard.Config
