import Plugboard.Text.Order

/-!
# JSON values

A number is an integer or a floating-point number, and the two differ even where they are equal
(`1` and `1.0`). Objects keep their fields in the order in which they are given; `canonical` puts
the fields of every object in order of their names, which is how values are compared and shown.
-/

namespace Plugboard

/-- A JSON value. -/
inductive Json where
  | null
  | bool (b : Bool)
  | int (i : Int)
  | float (x : Float)
  | str (s : String)
  | arr (items : List Json)
  | obj (fields : List (String × Json))
  deriving Inhabited

namespace Json

/-- Puts a field before the first one of a greater name, in place of one of the same name. -/
def insertField (name : String) (value : Json) : List (String × Json) → List (String × Json)
  | [] => [(name, value)]
  | (n, v) :: rest =>
    if n = name then (name, value) :: rest
    else if name < n then (name, value) :: (n, v) :: rest
    else (n, v) :: insertField name value rest

/-- The fields in order of their names; of fields of one name the last counts. -/
def sortFields (fields : List (String × Json)) : List (String × Json) :=
  fields.foldl (fun out (name, value) => insertField name value out) []

/-- An object of these fields, in order of their names. -/
def object (fields : List (String × Json)) : Json := .obj (sortFields fields)

/-- An array of texts. -/
def texts (items : List String) : Json := .arr (items.map .str)

/-- A natural number. -/
def nat (n : Nat) : Json := .int n

mutual

/-- The same value with the fields of every object in order of their names. -/
def canonical : Json → Json
  | .arr items => .arr (canonicalItems items)
  | .obj fields => .obj (sortFields (canonicalFields fields))
  | .null => .null
  | .bool b => .bool b
  | .int i => .int i
  | .float x => .float x
  | .str s => .str s

/-- `canonical` for the items of an array. -/
def canonicalItems : List Json → List Json
  | [] => []
  | v :: rest => canonical v :: canonicalItems rest

/-- `canonical` for the values of an object's fields. -/
def canonicalFields : List (String × Json) → List (String × Json)
  | [] => []
  | (name, v) :: rest => (name, canonical v) :: canonicalFields rest

end

/-- The value of an object's field. -/
def get? (name : String) : Json → Option Json
  | .obj fields => fields.lookup name
  | _ => none

/-- The text that a value is, if it is one. -/
def str? : Json → Option String
  | .str s => some s
  | _ => none

end Json

end Plugboard
