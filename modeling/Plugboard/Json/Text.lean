import Plugboard.Json.Basic
import Plugboard.Decimal.Layout

/-!
# JSON text

Writes a value as text: `compact` on one line without spaces, `pretty` with a line for each item
and field, indented by two spaces a level. Fields are written in the order they are held.
-/

namespace Plugboard.Json

/-- Floating-point numbers are written without an exponent from `0.00001` up to below ten to the
    sixteenth, and a whole one then keeps a point and a zero. -/
def numberLayout : Decimal.Layout := ⟨some (-4, 16), true⟩

/-- The text of a floating-point number. -/
def floatText (x : Float) : String := numberLayout.text x

/-- The four digits of a character code in hexadecimal. -/
def hex4 (n : Nat) : List Char :=
  let ds := Nat.toDigits 16 n
  List.replicate (4 - ds.length) '0' ++ ds

/-- A character as it stands between the quotes of a JSON text. -/
def escapeChar (c : Char) : List Char :=
  if c = '"' then ['\\', '"']
  else if c = '\\' then ['\\', '\\']
  else if c = '\n' then ['\\', 'n']
  else if c = '\r' then ['\\', 'r']
  else if c = '\t' then ['\\', 't']
  else if c = '\x08' then ['\\', 'b']
  else if c = '\x0c' then ['\\', 'f']
  else if c.toNat < 0x20 then '\\' :: 'u' :: hex4 c.toNat
  else [c]

/-- A text in quotes. -/
def quoted (s : String) : String := .ofList ('"' :: s.toList.flatMap escapeChar ++ ['"'])

mutual

/-- A value on one line. -/
def compact : Json → String
  | .null => "null"
  | .bool b => if b then "true" else "false"
  | .int i => toString i
  | .float x => floatText x
  | .str s => quoted s
  | .arr items => "[" ++ compactItems items ++ "]"
  | .obj fields => "\x7b" ++ compactFields fields ++ "\x7d"

/-- The items of an array with commas between them. -/
def compactItems : List Json → String
  | [] => ""
  | v :: rest => compact v ++ (if rest.isEmpty then "" else ",") ++ compactItems rest

/-- The fields of an object with commas between them. -/
def compactFields : List (String × Json) → String
  | [] => ""
  | (name, v) :: rest =>
    quoted name ++ ":" ++ compact v ++ (if rest.isEmpty then "" else ",") ++ compactFields rest

end

/-- A line end and the indentation of a level. -/
def newline (level : Nat) : String := .ofList ('\n' :: List.replicate (2 * level) ' ')

mutual

/-- A value on lines of its own, at a level of indentation. -/
def prettyAt (level : Nat) : Json → String
  | .arr [] => "[]"
  | .arr items => "[" ++ prettyItems (level + 1) items ++ newline level ++ "]"
  | .obj [] => "\x7b\x7d"
  | .obj fields => "\x7b" ++ prettyFields (level + 1) fields ++ newline level ++ "\x7d"
  | .null => "null"
  | .bool b => if b then "true" else "false"
  | .int i => toString i
  | .float x => floatText x
  | .str s => quoted s

/-- The items of an array, each on a line of its own. -/
def prettyItems (level : Nat) : List Json → String
  | [] => ""
  | v :: rest =>
    newline level ++ prettyAt level v ++ (if rest.isEmpty then "" else ",") ++
      prettyItems level rest

/-- The fields of an object, each on a line of its own. -/
def prettyFields (level : Nat) : List (String × Json) → String
  | [] => ""
  | (name, v) :: rest =>
    newline level ++ quoted name ++ ": " ++ prettyAt level v ++
      (if rest.isEmpty then "" else ",") ++ prettyFields level rest

end

/-- A value on lines of its own. -/
def pretty (v : Json) : String := prettyAt 0 v

/-- A value as shown to people: a text as it is, all else as compact JSON text. -/
def shown : Json → String
  | .str s => s
  | v => compact v

end Plugboard.Json
