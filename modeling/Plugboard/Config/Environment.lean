import Plugboard.Decimal.Reading
import Plugboard.Json.Basic
import Plugboard.Keyed
import Plugboard.Text.Lines
import Plugboard.Text.Lowercase

/-!
# Configuration from environment variables

A variable whose name begins with `FLASKBB__`, in any case, gives the setting a value whose path is
the rest of the name in lower case, with a point for every two underscores. Its text is read as a
truth value, an integer, or a floating-point number if it is one; the text for a list of names is
split at its commas; any other text stands for itself.
-/

namespace Plugboard.Config

/-- What the names of the variables begin with, in lower case. -/
def variableStart : String := "flaskbb__"

/-- The paths of the settings that are lists. -/
def listPaths : List String := ["plugins.disabled"]

/-- Characters with a point for every two underscores. -/
def pointed : List Char → List Char
  | '_' :: '_' :: rest => '.' :: pointed rest
  | c :: rest => c :: pointed rest
  | [] => []

/-- The path of the setting that a variable is for, if it is for one. -/
def variablePath? (name : String) : Option String :=
  (Text.dropStart? variableStart (Text.lowercase name)).map fun rest =>
    .ofList (pointed rest.toList)

/-- The value that a text gives the setting at a path. -/
def variableValue (path text : String) : Json :=
  let word := Text.lowercase text
  if word = "true" then .bool true
  else if word = "false" then .bool false
  else match Decimal.readInt? text.toList with
    | some i => .int i
    | none =>
      match Decimal.readFloat? text.toList with
      | some x => .float x
      | none =>
        if listPaths.contains path then .texts (Text.splitAll ',' text) else .str text

/-- The settings that variables give values, each once; of variables for one setting the last
    counts. -/
def layerOfVariables (env : List (String × String)) : List (String × Json) :=
  env.foldl (fun layer (name, text) =>
    match variablePath? name with
    | some path => Keyed.put path (variableValue path text) layer
    | none => layer) []

end Plugboard.Config
