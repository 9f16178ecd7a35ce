import Plugboard.Decimal.Reading
import Plugboard.Json.Basic
import Plugboard.Text.Hex

/-!
# Reading JSON text

`read?` gives the value that a JSON text spells, with the fields of objects in order of their
names; of fields of one name the last counts. Values stand less than 128 deep in one another.

A number without a fraction or an exponent is an integer if it fits 64 bits, with a sign or
without; `-0` and all other numbers are floating-point. Those are read by keeping as many leading
digits as fit a 64-bit word, of those before the point and then of those behind it, and scaling by a
power of ten.
-/

namespace Plugboard.Json

/-- The largest number a 64-bit word holds. -/
def wordMax : Nat := 0xFFFFFFFFFFFFFFFF

/-- `word · 10 ^ power`, by one multiplication or by divisions; none where it is out of range. -/
def scaled? (word : Nat) (power : Int) : Option Float :=
  let x := (UInt64.ofNat word).toFloat
  if 0 ≤ power then
    if power ≤ 308 then
      let y := x * Decimal.nearest 1 power
      if y.isInf then none else some y
    else if word = 0 then some x else none
  else
    let places := (-power).toNat
    if places ≤ 308 then some (x / Decimal.nearest 1 places)
    else if places ≤ 616 then
      some (x / Decimal.nearest 1 308 / Decimal.nearest 1 (places - 308))
    else some 0

/-- Leading digits kept in a 64-bit word, and the number of digits that did not fit. -/
def keepDigits : Nat → List Char → Nat × Nat
  | word, [] => (word, 0)
  | word, c :: rest =>
    let next := 10 * word + (c.toNat - 48)
    if next ≤ wordMax then keepDigits next rest else (word, rest.length + 1)

/-- The digits of a fraction that are kept after `word`, and how many those are. -/
def keepFraction : Nat → Nat → List Char → Nat × Nat
  | word, kept, [] => (word, kept)
  | word, kept, c :: rest =>
    let next := 10 * word + (c.toNat - 48)
    if next ≤ wordMax then keepFraction next (kept + 1) rest else (word, kept)

/-- The value of a run of digits, cut off where it is far out of range. -/
def exponentValue (ds : List Char) : Nat :=
  ds.foldl (fun n c => min (10 * n + (c.toNat - 48)) 100000) 0

/-- A number made of its parts: sign, digits before the point, digits after it, exponent. -/
def number? (negative : Bool) (whole : List Char) (fraction : Option (List Char))
    (exponent : Option Int) : Option Json :=
  let (word, dropped) := keepDigits 0 whole
  let signed (x : Float) : Json := .float (if negative then -x else x)
  match fraction, exponent with
  | none, none =>
    if 0 < dropped then (scaled? word dropped).map signed
    else if negative then
      -- no integer has the sign of `-0`
      if word = 0 then some (signed 0)
      else if word ≤ 0x8000000000000000 then some (.int (-(word : Int)))
      else some (signed (UInt64.ofNat word).toFloat)
    else some (.int word)
  | _, _ =>
    let (word, kept) := keepFraction word 0 (fraction.getD [])
    (scaled? word ((dropped : Int) - kept + exponent.getD 0)).map signed

/-- Whether a character is white space between the parts of a JSON text. -/
def isSpace (c : Char) : Bool := c = ' ' || c = '\n' || c = '\t' || c = '\r'

/-- A number at the start of the characters, and what follows it. -/
def readNumber? (cs : List Char) : Option (Json × List Char) := do
  let (negative, cs) := match cs with
    | '-' :: rest => (true, rest)
    | _ => (false, cs)
  let whole := cs.takeWhile Char.isDigit
  let cs := cs.dropWhile Char.isDigit
  if whole.isEmpty || (whole.head? = some '0' && 1 < whole.length) then none
  let (fraction, cs) ← match cs with
    | '.' :: rest =>
      let ds := rest.takeWhile Char.isDigit
      if ds.isEmpty then none else some (some ds, rest.dropWhile Char.isDigit)
    | _ => some (none, cs)
  let (exponent, cs) ← match cs with
    | c :: rest =>
      if c = 'e' || c = 'E' then
        let (down, rest) := match rest with
          | '-' :: more => (true, more)
          | '+' :: more => (false, more)
          | _ => (false, rest)
        let ds := rest.takeWhile Char.isDigit
        let n : Int := exponentValue ds
        if ds.isEmpty then none
        else some (some (if down then -n else n), rest.dropWhile Char.isDigit)
      else some (none, cs)
    | [] => some (none, cs)
  let v ← number? negative whole fraction exponent
  return (v, cs)

/-- The text up to the closing quote, and what follows it. The first argument bounds the number of
    characters; the second holds those read, last first. -/
def readString? : Nat → List Char → List Char → Option (String × List Char)
  | 0, _, _ => none
  | _ + 1, out, '"' :: rest => some (.ofList out.reverse, rest)
  | fuel + 1, out, '\\' :: 'u' :: a :: b :: c :: d :: rest => do
    let n ← Text.hexNumber? [a, b, c, d]
    if 0xD800 ≤ n ∧ n < 0xDC00 then
      match rest with
      | '\\' :: 'u' :: e :: f :: g :: h :: rest =>
        let m ← Text.hexNumber? [e, f, g, h]
        if 0xDC00 ≤ m ∧ m < 0xE000 then
          readString? fuel (Char.ofNat (0x10000 + (n - 0xD800) * 1024 + (m - 0xDC00)) :: out) rest
        else none
      | _ => none
    else if 0xDC00 ≤ n ∧ n < 0xE000 then none
    else readString? fuel (Char.ofNat n :: out) rest
  | fuel + 1, out, '\\' :: c :: rest => do
    let e ← ([('"', '"'), ('\\', '\\'), ('/', '/'), ('b', '\x08'), ('f', '\x0c'), ('n', '\n'),
      ('r', '\r'), ('t', '\t')] : List (Char × Char)).lookup c
    readString? fuel (e :: out) rest
  | fuel + 1, out, c :: rest => if c.toNat < 0x20 then none else readString? fuel (c :: out) rest
  | _ + 1, _, [] => none

mutual

/-- A value in which others stand at most `room` deep, and what follows it. The first argument
    bounds the number of steps. -/
def readValue? : Nat → Nat → List Char → Option (Json × List Char)
  | 0, _, _ => none
  | fuel + 1, room, cs =>
    match cs.dropWhile isSpace, room with
    | 'n' :: 'u' :: 'l' :: 'l' :: rest, _ => some (.null, rest)
    | 't' :: 'r' :: 'u' :: 'e' :: rest, _ => some (.bool true, rest)
    | 'f' :: 'a' :: 'l' :: 's' :: 'e' :: rest, _ => some (.bool false, rest)
    | '"' :: rest, _ => (readString? fuel [] rest).map fun (s, rest) => (.str s, rest)
    | '[' :: rest, room + 1 =>
      match rest.dropWhile isSpace with
      | ']' :: rest => some (.arr [], rest)
      | _ => readItems? fuel room [] rest
    | '\x7b' :: rest, room + 1 =>
      match rest.dropWhile isSpace with
      | '\x7d' :: rest => some (.obj [], rest)
      | _ => readFields? fuel room [] rest
    | cs, _ => readNumber? cs

/-- The items of an array up to its closing bracket, after those already read, last first. -/
def readItems? : Nat → Nat → List Json → List Char → Option (Json × List Char)
  | 0, _, _, _ => none
  | fuel + 1, room, out, cs => do
    let (v, cs) ← readValue? fuel room cs
    match cs.dropWhile isSpace with
    | ',' :: rest => readItems? fuel room (v :: out) rest
    | ']' :: rest => return (.arr (v :: out).reverse, rest)
    | _ => none

/-- The fields of an object up to its closing brace, after those already read, last first. -/
def readFields? : Nat → Nat → List (String × Json) → List Char → Option (Json × List Char)
  | 0, _, _, _ => none
  | fuel + 1, room, out, cs => do
    match cs.dropWhile isSpace with
    | '"' :: rest =>
      let (name, cs) ← readString? fuel [] rest
      match cs.dropWhile isSpace with
      | ':' :: rest =>
        let (v, cs) ← readValue? fuel room rest
        match cs.dropWhile isSpace with
        | ',' :: rest => readFields? fuel room ((name, v) :: out) rest
        | '\x7d' :: rest => return (object ((name, v) :: out).reverse, rest)
        | _ => none
      | _ => none
    | _ => none

end

/-- How deep values stand in one another at most. -/
def depthLimit : Nat := 127

/-- The value that a JSON text spells. -/
def read? (s : String) : Option Json :=
  let cs := s.toList
  match readValue? (cs.length + 2) depthLimit cs with
  | some (v, rest) => if rest.all isSpace then some v else none
  | none => none

end Plugboard.Json
