import Plugboard.Json.Text
import Plugboard.Text.Quoted

/-!
# Decoding JSON values

Reads records out of JSON values. A record is an object with a field for each of its fields, or an
array of them in the order of declaration. Fields that the record does not have are passed over.

An object is read field by field in order of the names, so of several wrong fields the one of the
least name is reported; a wrong field is reported before a missing one.
-/

namespace Plugboard.Json

/-- Why a JSON value does not have the wanted shape. -/
inductive DecodeError where
  /-- A record lacks a field. -/
  | missingField (name : String)
  /-- A value is of another type than wanted. -/
  | wrongType (found : Json) (wanted : String)
  /-- A number is out of range. -/
  | outOfRange (found : Json) (wanted : String)
  /-- An array has too few or too many items. -/
  | wrongLength (found : Nat) (wanted : String)
  /-- An object does not name exactly one choice. -/
  | notOneChoice
  /-- A choice of this name does not exist. -/
  | unknownChoice (name : String) (known : List String)

/-- What a value is, as a message names it. -/
def kindText : Json → String
  | .null => "null"
  | .bool b => "boolean `" ++ (if b then "true" else "false") ++ "`"
  | .int i => "integer `" ++ toString i ++ "`"
  | .float x => "floating point `" ++ floatText x ++ "`"
  | .str s => "string " ++ Text.quote s
  | .arr _ => "sequence"
  | .obj _ => "map"

/-- The text of a decoding error. -/
def DecodeError.message : DecodeError → String
  | .missingField name => "missing field `" ++ name ++ "`"
  | .wrongType found wanted => "invalid type: " ++ kindText found ++ ", expected " ++ wanted
  | .outOfRange found wanted => "invalid value: " ++ kindText found ++ ", expected " ++ wanted
  | .wrongLength found wanted => "invalid length " ++ toString found ++ ", expected " ++ wanted
  | .notOneChoice => "invalid value: map, expected map with a single key"
  | .unknownChoice name known =>
    "unknown variant `" ++ name ++ "`, expected one of " ++
      Text.joinWith ", " (known.map fun k => "`" ++ k ++ "`")

/-- The outcome of decoding. -/
abbrev Decoded (α : Type) := Except DecodeError α

/-- A text. -/
def asText : Json → Decoded String
  | .str s => .ok s
  | v => .error (.wrongType v "a string")

/-- A truth value. -/
def asBool : Json → Decoded Bool
  | .bool b => .ok b
  | v => .error (.wrongType v "a boolean")

/-- A natural number that fits 64 bits; `wanted` names its type in messages. -/
def asWord (wanted : String) : Json → Decoded Nat
  | .int i =>
    if 0 ≤ i ∧ i ≤ 0xFFFFFFFFFFFFFFFF then .ok i.toNat else .error (.outOfRange (.int i) wanted)
  | v => .error (.wrongType v wanted)

/-- An array, each item decoded in turn. -/
def asList {α : Type} (item : Json → Decoded α) : Json → Decoded (List α)
  | .arr items => items.mapM item
  | v => .error (.wrongType v "a sequence")

/-- The value of a field, if an object has it. -/
def field? {α : Type} (fields : List (String × Json)) (name : String) (decode : Json → Decoded α) :
    Decoded (Option α) :=
  match fields.lookup name with
  | some v => (decode v).map some
  | none => .ok none

/-- The value of a field that must be there. -/
def present {α : Type} (name : String) : Option α → Decoded α
  | some a => .ok a
  | none => .error (.missingField name)

/-- The item at a place of an array that stands for a record of the kind `wanted`. -/
def itemAt {α : Type} (wanted : String) (items : List Json) (i : Nat) (decode : Json → Decoded α) :
    Decoded α :=
  match items[i]? with
  | some v => decode v
  | none => .error (.wrongLength i wanted)

/-- The item at a place of an array, or a default where the array is shorter. -/
def itemOr {α : Type} (default : α) (items : List Json) (i : Nat) (decode : Json → Decoded α) :
    Decoded α :=
  match items[i]? with
  | some v => decode v
  | none => .ok default

/-- Refuses an array of more than `count` items. -/
def atMost (count : Nat) (items : List Json) : Decoded Unit :=
  if items.length ≤ count then .ok ()
  else .error (.wrongLength items.length "fewer elements in array")

/-- A pair of texts, given as an array of two. -/
def asPair : Json → Decoded (String × String)
  | .arr items => do
    let first ← itemAt "a tuple of size 2" items 0 asText
    let second ← itemAt "a tuple of size 2" items 1 asText
    atMost 2 items
    return (first, second)
  | v => .error (.wrongType v "a tuple of size 2")

/-- One of several named choices, given by its name or as an object with its name and null. -/
def asChoice {α : Type} (choices : List (String × α)) (v : Json) : Decoded α :=
  let find (name : String) : Decoded α :=
    match choices.lookup name with
    | some a => .ok a
    | none => .error (.unknownChoice name (choices.map (·.1)))
  match v with
  | .str name => find name
  | .obj [(name, content)] => do
    let a ← find name
    match content with
    | .null => return a
    | other => .error (.wrongType other "unit")
  | .obj _ => .error .notOneChoice
  | v => .error (.wrongType v "string or map")

end Plugboard.Json
