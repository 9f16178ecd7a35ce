import Plugboard.Config.Environment
import Plugboard.Config.Lookup
import Plugboard.Config.Reading
import Plugboard.Config.Tree
import Plugboard.Text.Utf8

/-!
# Loading settings

Settings come from files, each laid over those before it, and last from environment variables. A
file that is not there is passed over.
-/

namespace Plugboard.Config

/-- Lays the file that a path stands for over a tree, if it is there; none where its text is not in
    its format. -/
def addFile? (files : Files) (tree : Json) (path : String) : Option Json :=
  match findSettings? files path with
  | none => some tree
  | some (format, contents) => (format.read? (Text.ofBytes contents)).map (addLayer tree)

/-- The settings that files and environment variables give. -/
def load (files : Files) (env : List (String × String)) (paths : List String) :
    Except AppError Settings :=
  match paths.foldlM (addFile? files) (.obj []) with
  | none => .error (.configuration "Failed to build config")
  | some tree =>
    match settings? (addLayer tree (layerOfVariables env)) with
    | some settings => .ok settings
    | none => .error (.configuration "Failed to deserialize config")

end Plugboard.Config
