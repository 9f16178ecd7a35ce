import Plugboard.Ini
import Plugboard.Json.Reader
import Plugboard.Json5.Reader
import Plugboard.Ron.Reader
import Plugboard.Toml.Reader
import Plugboard.Yaml.Reader

/-!
# Formats of files of settings

A file of settings is a text in one of several formats, told by the ending of its name. Whatever the
format, it spells one table.
-/

namespace Plugboard.Config

/-- A format of files of settings, by its name. -/
inductive FileFormat where
  | toml
  | json
  | yaml
  | ini
  | ron
  | json5
  deriving Repr, DecidableEq

namespace FileFormat

/-- The endings of names with the formats that they tell, in the order in which they are tried. -/
def endings : List (String × FileFormat) :=
  [("toml", .toml), ("json", .json), ("yaml", .yaml), ("yml", .yaml), ("ini", .ini),
    ("ron", .ron), ("json5", .json5)]

/-- The fields of a table; none of any other value. -/
def tableFields? : Json → Option (List (String × Json))
  | .obj fields => some fields
  | _ => none

/-- The fields of the table that a text in a format spells. -/
def read? (format : FileFormat) (s : String) : Option (List (String × Json)) :=
  match format with
  | .toml => (Toml.read? s).bind tableFields?
  | .json => (Json.read? s).bind tableFields?
  | .yaml => (Yaml.read? s).bind tableFields?
  | .ini => Ini.read? s
  | .ron => (Ron.read? s).bind tableFields?
  | .json5 => (Json5.read? s).bind tableFields?

end FileFormat

end Plugboard.Config
