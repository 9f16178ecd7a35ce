import Plugboard.Decimal.Reading
import Plugboard.Json.Basic
import Plugboard.Keyed
import Plugboard.Text.Hex
import Plugboard.Text.Lines

/-!
# Values of YAML

A plain text spells a value of another kind if it has the form of one; a tag names the kind. Keys of
tables are values too, though a table whose keys are not simple is none of settings.
-/

namespace Plugboard.Yaml

/-- A value. -/
inductive Value where
  /-- No value: a text that is not of the kind that its tag names, or a value that is part of
      itself. -/
  | missing
  /-- The null value. -/
  | null
  /-- A truth value. -/
  | bool (b : Bool)
  /-- An integer. -/
  | int (i : Int)
  /-- A floating-point number as it is written. -/
  | real (s : String)
  /-- A text. -/
  | str (s : String)
  /-- A list. -/
  | list (items : List Value)
  /-- Keys and their values, in order. -/
  | table (pairs : List (Value × Value))
  deriving Inhabited

/-- A tag: what its handle stands for, and what follows that. -/
structure Tag where
  /-- What its handle stands for. -/
  start : String
  /-- What follows the handle. -/
  suffix : String
  deriving Repr, DecidableEq

namespace Value

/-- The number that a text spells as a floating-point number. -/
def float? (s : String) : Option Float := Decimal.readFloat? s.toList

/-- Whether a text spells a floating-point number: one of the words for infinities and for no
    number, or one with a digit. -/
def isReal (s : String) : Bool :=
  [".inf", ".Inf", ".INF", "+.inf", "+.Inf", "+.INF", "-.inf", "-.Inf", "-.INF", ".nan", ".NaN",
    ".NAN"].contains s || (s.toList.any Char.isDigit && (float? s).isSome)

/-- The number that digits of a base with an optional sign spell, if it fits 64 bits. -/
def inBase? (base : Nat) (cs : List Char) : Option Int := do
  let (negative, ds) := Decimal.takeSign cs
  if ds.isEmpty then none
  let values ← ds.mapM fun c => (Text.hexDigit? c).filter (· < base)
  let n := values.foldl (base * · + ·) 0
  let i : Int := if negative then -n else n
  if -0x8000000000000000 ≤ i ∧ i < 0x8000000000000000 then some i else none

/-- The integer that a plain text spells. -/
def int? (s : String) : Option Int :=
  let signed := match s.toList with
    | '0' :: 'x' :: ds => inBase? 16 ds
    | '0' :: 'o' :: ds => inBase? 8 ds
    | '+' :: ds => Decimal.readInt? ds
    | _ => none
  signed <|> Decimal.readInt? s.toList

/-- The truth value that a plain text spells. -/
def bool? (s : String) : Option Bool :=
  if ["true", "True", "TRUE"].contains s then some true
  else if ["false", "False", "FALSE"].contains s then some false
  else none

/-- The value that a plain text spells. -/
def ofPlain (s : String) : Value :=
  match int? s with
  | some i => .int i
  | none =>
    if s = "" ∨ s = "~" ∨ s = "null" then .null
    else if let some b := bool? s then .bool b
    else if isReal s then .real s
    else .str s

/-- The value that a plain text spells as a value of the kind that a tag names. -/
def ofTagged (tag : Tag) (s : String) : Value :=
  if tag.start ≠ "tag:yaml.org,2002:" then .str s
  else if tag.suffix = "bool" then
    (bool? s).elim .missing .bool
  else if tag.suffix = "int" then
    match Decimal.readInt? s.toList with
    | some i => .int i
    | none => .missing
  else if tag.suffix = "float" then if isReal s then .real s else .missing
  else if tag.suffix = "null" then if s = "~" ∨ s = "null" then .null else .missing
  else .str s

/-- The value of a text. -/
def ofText (tag? : Option Tag) (plain : Bool) (s : String) : Value :=
  if plain then
    match tag? with
    | some tag => ofTagged tag s
    | none => ofPlain s
  else .str s

/-- Whether two values are the same simple key. -/
def sameKey : Value → Value → Bool
  | .bool a, .bool b => a = b
  | .int a, .int b => a = b
  | .real a, .real b => a = b
  | .str a, .str b => a = b
  | _, _ => false

/-- Values by turns as keys and values of a table, each key once; `key` is the one whose value comes
    next. What is missing is no key. -/
def pairUp? (key : Value) (pairs : List (Value × Value)) : List Value → Option Value
  | [] => some (.table pairs.reverse)
  | v :: rest =>
    match key with
    | .missing => pairUp? v pairs rest
    | _ =>
      if pairs.any fun (k, _) => sameKey k key then none
      else pairUp? .missing ((key, v) :: pairs) rest

/-- The name that a simple key is. -/
def name? : Value → Option String
  | .str s | .real s => some s
  | .int i => some (toString i)
  | .bool b => some (if b then "true" else "false")
  | _ => none

mutual

/-- The same value in JSON; none where a key is not simple or a number not finite. -/
def toJson? : Value → Option Json
  | .missing | .null => some .null
  | .bool b => some (.bool b)
  | .int i => some (.int i)
  | .real s => (float? s).map .float
  | .str s => some (.str s)
  | .list items => (itemsToJson? items).map .arr
  | .table pairs => (pairsToJson? [] pairs).map .obj

/-- `toJson?` for the items of a list. -/
def itemsToJson? : List Value → Option (List Json)
  | [] => some []
  | v :: rest => do return (← toJson? v) :: (← itemsToJson? rest)

/-- `toJson?` for the pairs of a table, behind the fields already there. -/
def pairsToJson? (fields : List (String × Json)) :
    List (Value × Value) → Option (List (String × Json))
  | [] => some fields
  | (k, v) :: rest => do pairsToJson? (Keyed.put (← name? k) (← toJson? v) fields) rest

end

end Value

end Plugboard.Yaml
