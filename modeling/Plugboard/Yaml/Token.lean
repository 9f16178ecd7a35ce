/-!
# Tokens of YAML

The parts of a YAML text: texts, names, indicators, and the starts and ends of blocks, which no
character stands for but which are told by the columns at which things stand.
-/

namespace Plugboard.Yaml

/-- A token. -/
inductive Token where
  /-- The version of the format. -/
  | version
  /-- What a handle of tags stands for. -/
  | tagRule (handle start : String)
  /-- The line before a document. -/
  | documentStart
  /-- The line behind a document. -/
  | documentEnd
  /-- The start of a block of items. -/
  | listStart
  /-- The start of a block of keys and values. -/
  | tableStart
  /-- The end of a block. -/
  | blockEnd
  /-- An opening bracket. -/
  | flowListStart
  /-- A closing bracket. -/
  | flowListEnd
  /-- An opening brace. -/
  | flowTableStart
  /-- A closing brace. -/
  | flowTableEnd
  /-- The sign of an item of a block. -/
  | item
  /-- A comma. -/
  | comma
  /-- What stands before a key, be it only the key itself. -/
  | key
  /-- The colon before a value. -/
  | value
  /-- The name of a value that stands elsewhere. -/
  | alias (name : String)
  /-- A name for the value that follows. -/
  | anchor (name : String)
  /-- A tag of the value that follows. -/
  | tag (handle suffix : String)
  /-- A text, plain or not. -/
  | text (plain : Bool) (s : String)
  deriving Repr, DecidableEq

end Plugboard.Yaml
