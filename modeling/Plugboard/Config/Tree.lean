import Plugboard.Decimal.Reading
import Plugboard.Json.Basic
import Plugboard.Keyed

/-!
# Layers of configuration values

Configuration comes in layers, and a later layer is laid over the earlier ones: tables are joined
key by key, any other value takes the place of what was there.

The keys of a layer are paths. `a.b` is the key `b` of the table under `a`, `a[0]` the first item of
the array under `a`; an index may count from the end. A key that is no path stands for itself.
-/

namespace Plugboard.Config

/-- A step of a path. -/
inductive PathStep where
  /-- To the value of a key. -/
  | field (key : String)
  /-- To an item; a negative index counts from the end. -/
  | item (index : Int)
  deriving Repr, DecidableEq

/-- Whether a character may stand in a key of a path. -/
def isPathKey (c : Char) : Bool := c.isAlphanum || c = '-' || c = '_'

/-- Characters without the spaces and tabs at both ends. -/
def dropSpaces (cs : List Char) : List Char :=
  let isSpace (c : Char) : Bool := c = ' ' || c = '\t'
  ((cs.dropWhile isSpace).reverse.dropWhile isSpace).reverse

/-- The index that digits with an optional minus spell, if it fits 64 bits. -/
def readIndex? (cs : List Char) : Option Int :=
  match dropSpaces cs with
  | '+' :: _ => none
  | cs => Decimal.readInt? cs

/-- The steps that follow the first key of a path. The first argument bounds their number. -/
def readSteps? : Nat → List Char → Option (List PathStep)
  | _, [] => some []
  | 0, _ => none
  | fuel + 1, '.' :: rest =>
    let key := rest.takeWhile isPathKey
    if key.isEmpty then none
    else (readSteps? fuel (rest.dropWhile isPathKey)).map (.field (.ofList key) :: ·)
  | fuel + 1, '[' :: rest =>
    match rest.dropWhile (· ≠ ']') with
    | _ :: more => do
      let index ← readIndex? (rest.takeWhile (· ≠ ']'))
      return .item index :: (← readSteps? fuel more)
    | [] => none
  | _, _ => none

/-- The steps of a path. -/
def stepsOf (path : String) : List PathStep :=
  let cs := path.toList
  let key := cs.takeWhile isPathKey
  match readSteps? cs.length (cs.dropWhile isPathKey) with
  | some steps => if key.isEmpty then [.field path] else .field (.ofList key) :: steps
  | none => [.field path]

/-- The fields of a table; any other value has none. -/
def fieldsOf : Json → List (String × Json)
  | .obj fields => fields
  | _ => []

/-- The items of an array; any other value has none. -/
def itemsOf : Json → List Json
  | .arr items => items
  | _ => []

mutual

/-- A value laid over another. -/
def overlay (old : Json) : Json → Json
  | .obj fields => .obj (overlayFields (fieldsOf old) fields)
  | v => v

/-- Fields laid over the fields of a table. -/
def overlayFields (old : List (String × Json)) : List (String × Json) → List (String × Json)
  | [] => old
  | (key, v) :: rest =>
    overlayFields (Keyed.put key (overlay ((Keyed.get? key old).getD .null) v) old) rest

end

/-- Items with the one at an index changed. Missing ones are added at the end, or for an index from
    the end at the front. -/
def changeItem (f : Json → Json) (items : List Json) (index : Int) : List Json :=
  let missing (n : Nat) : List Json := List.replicate n .null
  let (items, place) :=
    if 0 ≤ index then (items ++ missing (index.toNat + 1 - items.length), index.toNat)
    else
      let fromEnd := index.natAbs
      (missing (fromEnd - items.length) ++ items, items.length - fromEnd)
  items.modify place f

/-- Changes the value that steps lead to. Tables and arrays on the way take the place of whatever
    else is there. -/
def changeAt (f : Json → Json) : List PathStep → Json → Json
  | [], v => f v
  | .field key :: rest, v =>
    let fields := fieldsOf v
    .obj (Keyed.put key (changeAt f rest ((Keyed.get? key fields).getD .null)) fields)
  | .item index :: rest, v => .arr (changeItem (changeAt f rest) (itemsOf v) index)

/-- Lays a value over what stands at a path. -/
def place (tree : Json) (path : String) (v : Json) : Json :=
  changeAt (overlay · v) (stepsOf path) tree

/-- Lays the values of some paths over a tree, one after another. The entries of a table have no
    order of their own, so of two that lead to one place either may come last; here it is the one
    that is listed last. -/
def addLayer (tree : Json) (layer : List (String × Json)) : Json :=
  layer.foldl (fun tree (path, v) => place tree path v) tree

end Plugboard.Config
