import Plugboard.Keyed
import Plugboard.Ron.Number
import Plugboard.Ron.Quoted

/-!
# Reading RON

RON writes records as names with values in parentheses, lists in brackets, and tables of any keys in
braces. A record may bear the name of its kind, which says nothing about its value; a record without
names is a list. `read?` gives the value that a text spells; the keys of its tables must be texts,
characters or strings of octets. Of two keys of one kind and name the last counts. Of two kinds,
octets outweigh a text, and a text outweighs a character.

An optional value is written `Some(value)` or `None`. If the text asks for it, what stands between
the parentheses may also be what stands between those of a record.

Values stand at most 128 deep in one another, where a collection counts, and what is in it again.
-/

namespace Plugboard.Ron

/-! ## Keys -/

/-- The pairs of a table, by the kinds of their keys. -/
structure Pairs where
  /-- Those whose keys are characters. -/
  chars : List (String × Json) := []
  /-- Those whose keys are texts. -/
  texts : List (String × Json) := []
  /-- Those whose keys are strings of octets. -/
  octets : List (String × Json) := []

/-- The pairs by names alone. -/
def Pairs.fields (p : Pairs) : List (String × Json) :=
  (p.texts ++ p.octets).foldl (fun out (name, v) => Keyed.put name v out) p.chars

/-- The key of a pair, as what puts a value under it, and what follows it. -/
def readKey? (cs : List Char) : Option ((Json → Pairs → Pairs) × List Char) :=
  match cs with
  | '\'' :: _ => do
    let (name, rest) ← readChar? cs
    return (fun v p => { p with chars := Keyed.put name v p.chars }, rest)
  | 'b' :: _ => do
    let (octets, rest) ← readOctets? cs
    let name ← String.fromUTF8? (ByteArray.mk octets.toArray)
    return (fun v p => { p with octets := Keyed.put name v p.octets }, rest)
  | _ => do
    let (name, rest) ← readText? cs
    return (fun v p => { p with texts := Keyed.put name v p.texts }, rest)

/-! ## Values -/

/-- Whether more than one value follows up to the closing parenthesis; `depth` tells how many other
    brackets are open. The first argument bounds the number of steps. -/
def isSeveral : Nat → Nat → List Char → Bool
  | 0, _, _ => false
  | fuel + 1, depth, cs =>
    let cs := skip cs
    let cs := (readChar? cs).elim cs (·.2)
    let cs := (readText? cs).elim cs (·.2)
    let cs := (readOctets? cs).elim cs (·.2)
    match cs with
    | c :: rest =>
      if c = '(' || c = '[' || c = '\x7b' then isSeveral fuel (depth + 1) rest
      else if c = ')' || c = ']' || c = '\x7d' then
        if depth = 0 then false else isSeveral fuel (depth - 1) rest
      else if c = ',' && depth = 0 then (skip rest).head? ≠ some ')'
      else isSeveral fuel depth rest
    | [] => false

/-- A value that holds no others, and what follows it. -/
def readSimple? (cs : List Char) : Option (Json × List Char) :=
  match cs with
  | '"' :: _ | 'r' :: _ => (readText? cs).map fun (s, rest) => (.str s, rest)
  | '\'' :: _ => (readChar? cs).map fun (s, rest) => (.str s, rest)
  | 'b' :: '\'' :: _ => (readOctet? cs).map fun (n, rest) => (.nat n.toNat, rest)
  | 'b' :: _ =>
    (readOctets? cs).map fun (ns, rest) => (.arr (ns.map fun n => .nat n.toNat), rest)
  | _ => readNumber? cs

mutual

/-- A value in which others stand at most `room` deep, and what follows it. With `bare` an optional
    value may be a record without parentheses. The first argument bounds the number of steps. -/
def readValue? (bare : Bool) : Nat → Nat → List Char → Option (Json × List Char)
  | 0, _, _ => none
  | fuel + 1, room, cs =>
    let (word, rest) := takeWord cs
    let word := String.ofList word
    if word = "true" then some (.bool true, rest)
    else if word = "false" then some (.bool false, rest)
    else if word = "None" then some (.null, rest)
    else if word = "Some" then readOption? bare fuel room (skip rest)
    else if let some x := wordValue? word then some (.float x, rest)
    else
      match readName? cs with
      | some (_, rest) =>
        match skip rest with
        | '(' :: rest => readRecord? bare fuel room (skip rest)
        | rest => some (.null, rest)
      | none =>
        match cs, room with
        | '(' :: ')' :: rest, _ => some (.null, rest)
        | '(' :: rest, _ => readRecord? bare fuel room (skip rest)
        | '[' :: rest, room + 1 =>
          (readItems? bare fuel room ']' [] (skip rest)).map fun (items, rest) => (.arr items, rest)
        | '\x7b' :: rest, room + 1 =>
          (readPairs? bare fuel room {} (skip rest)).map fun (pairs, rest) =>
            (.obj pairs.fields, rest)
        | _, _ => readSimple? cs

/-- An optional value, from its opening parenthesis. -/
def readOption? (bare : Bool) : Nat → Nat → List Char → Option (Json × List Char)
  | fuel + 1, room + 1, '(' :: rest => do
    let cs := skip rest
    if bare && cs.head? = some ')' then return (.null, cs.drop 1)
    else if bare && (isNamed cs || isSeveral cs.length 0 cs) then readRecord? bare fuel room cs
    else
      let (v, cs) ← readValue? bare fuel room cs
      let cs := skip cs
      let ')' :: rest := if cs.head? = some ',' then skip (cs.drop 1) else cs | none
      return (v, rest)
  | _, _, _ => none

/-- A record behind its opening parenthesis. -/
def readRecord? (bare : Bool) : Nat → Nat → List Char → Option (Json × List Char)
  | fuel + 1, room + 1, cs =>
    if isNamed cs then
      (readFields? bare fuel room [] cs).map fun (fields, rest) => (.obj fields, rest)
    else (readItems? bare fuel room ')' [] cs).map fun (items, rest) => (.arr items, rest)
  | _, _, _ => none

/-- Items up to a closing sign, behind those already read, last first. -/
def readItems? (bare : Bool) : Nat → Nat → Char → List Json → List Char →
    Option (List Json × List Char)
  | 0, _, _, _, _ => none
  | fuel + 1, room, closing, out, cs =>
    if cs.head? = some closing then some (out.reverse, cs.drop 1)
    else
      match room with
      | 0 => none
      | inner + 1 => do
        let (v, cs) ← readValue? bare fuel inner cs
        match skip cs with
        | ',' :: rest => readItems? bare fuel room closing (v :: out) (skip rest)
        | c :: rest => if c = closing then return ((v :: out).reverse, rest) else none
        | [] => none

/-- The fields of a record up to its closing parenthesis, behind those already read. -/
def readFields? (bare : Bool) : Nat → Nat → List (String × Json) → List Char →
    Option (List (String × Json) × List Char)
  | 0, _, _, _ => none
  | _ + 1, _, fields, ')' :: rest => some (fields, rest)
  | _ + 1, 0, _, _ => none
  | fuel + 1, room + 1, fields, cs => do
    let (name, cs) ← readName? cs
    let ':' :: cs := skip cs | none
    let (v, cs) ← readValue? bare fuel room (skip cs)
    let fields := Keyed.put (.ofList name) v fields
    match skip cs with
    | ',' :: rest => readFields? bare fuel (room + 1) fields (skip rest)
    | ')' :: rest => return (fields, rest)
    | _ => none

/-- The pairs of a table up to its closing brace, behind those already read. -/
def readPairs? (bare : Bool) : Nat → Nat → Pairs → List Char → Option (Pairs × List Char)
  | 0, _, _, _ => none
  | _ + 1, _, pairs, '\x7d' :: rest => some (pairs, rest)
  | _ + 1, 0, _, _ => none
  | fuel + 1, room + 1, pairs, cs => do
    let (put, cs) ← readKey? cs
    let ':' :: cs := skip cs | none
    let (v, cs) ← readValue? bare fuel room (skip cs)
    let pairs := put v pairs
    match skip cs with
    | ',' :: rest => readPairs? bare fuel (room + 1) pairs (skip rest)
    | '\x7d' :: rest => return (pairs, rest)
    | _ => none

end

/-! ## The start of a text -/

/-- The features of the format that a text may ask for. Only `unwrap_variant_newtypes` changes a
    value here: it lets optional values be records without parentheses. -/
def features : List String :=
  ["unwrap_newtypes", "implicit_some", "unwrap_variant_newtypes", "explicit_struct_names"]

/-- Whether a text asks for records without parentheses, in the list of its features or before, and
    what follows the list. The first argument bounds the number of features. -/
def afterFeatures? : Nat → Bool → List Char → Option (Bool × List Char)
  | 0, _, _ => none
  | fuel + 1, bare, cs => do
    let (name, rest) ← readName? (skip cs)
    if !features.contains (.ofList name) then none
    let bare := bare || name = "unwrap_variant_newtypes".toList
    match skip rest with
    | ',' :: rest =>
      match skip rest with
      | ')' :: _ => (after? [")", "]"] rest).map (bare, ·)
      | rest => afterFeatures? fuel bare rest
    | rest => (after? [")", "]"] rest).map (bare, ·)

/-- Whether the lines at the start of a text ask for records without parentheses, and what follows
    those lines. They may also name the type of the text or its description. The first argument
    bounds their number. -/
def afterHead? : Nat → Bool → List Char → Option (Bool × List Char)
  | 0, _, _ => none
  | fuel + 1, bare, cs =>
    match skip cs with
    | '#' :: rest => do
      let (word, rest) := takeWord (← after? ["!", "["] rest)
      let word := String.ofList word
      if word = "enable" then
        let rest ← after? ["("] rest
        let (bare, rest) ← afterFeatures? (rest.length + 1) bare rest
        afterHead? fuel bare rest
      else if word = "type" ∨ word = "schema" then
        let (_, rest) ← readText? (← after? ["="] rest)
        afterHead? fuel bare (← after? ["]"] rest)
      else none
    | rest => some (bare, rest)

/-- The value that a RON text spells. -/
def read? (s : String) : Option Json := do
  let cs := s.toList
  let (bare, cs) ← afterHead? (cs.length + 1) false cs
  let (v, rest) ← readValue? bare (3 * cs.length + 3) 128 cs
  if (skip rest).isEmpty then return v else none

end Plugboard.Ron
