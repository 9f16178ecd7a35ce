import Plugboard.Decimal.Reading
import Plugboard.Json.Basic
import Plugboard.Json5.Quoted
import Plugboard.Text.Blank

/-!
# Reading JSON5

JSON5 is JSON as people write it: with comments, commas behind the last item, names without quotes,
text in single quotes, and more forms of numbers. `read?` gives the value that a text spells.

A number is an integer if it has neither a point nor an exponent and fits 64 bits. One that would do
so only without a sign is refused; beyond that, integers are read as floating-point numbers. In
hexadecimal they fit 128 bits.
-/

namespace Plugboard.Json5

/-- Whether a character is white space between the parts of a text. -/
def isSpace (c : Char) : Bool :=
  (Text.isBlank c && c ≠ '\u0085') || c = '\uFEFF'

/-- What follows the end of a comment, if it has one. -/
def commentEnd? : List Char → Option (List Char)
  | '*' :: '/' :: rest => some rest
  | _ :: rest => commentEnd? rest
  | [] => none

/-- Characters without the white space and comments at their start. The first argument bounds their
    number. -/
def dropSpace : Nat → List Char → List Char
  | 0, cs => cs
  | fuel + 1, cs =>
    match cs with
    | '/' :: '/' :: rest => dropSpace fuel (rest.dropWhile fun c => !isBreak c)
    | '/' :: '*' :: rest =>
      match commentEnd? rest with
      | some rest => dropSpace fuel rest
      | none => cs
    | c :: rest => if isSpace c then dropSpace fuel rest else cs
    | [] => []

/-- Characters without the white space and comments at their start. -/
def skip (cs : List Char) : List Char := dropSpace cs.length cs

/-- The characters of an exponent, and what follows them, if there is one. -/
def exponent (cs : List Char) : List Char × List Char :=
  match cs with
  | e :: rest =>
    if e = 'e' ∨ e = 'E' then
      let (sign, rest) := match rest with
        | '+' :: more => (['+'], more)
        | '-' :: more => (['-'], more)
        | _ => ([], rest)
      let ds := rest.takeWhile Char.isDigit
      if ds.isEmpty then ([], cs) else (e :: sign ++ ds, rest.drop ds.length)
    else ([], cs)
  | [] => ([], [])

/-- The characters of a number in base ten without a sign, and what follows them. -/
def decimal? (cs : List Char) : Option (List Char × List Char) :=
  let ds := match cs with
    -- a zero at the start is the only digit before a point
    | '0' :: _ => ['0']
    | _ => cs.takeWhile Char.isDigit
  match cs.drop ds.length with
  | '.' :: rest =>
    let fs := rest.takeWhile Char.isDigit
    if ds.isEmpty && fs.isEmpty then none
    else
      let (e, rest) := exponent (rest.drop fs.length)
      some (ds ++ '.' :: fs ++ e, rest)
  | rest =>
    if ds.isEmpty then none
    else
      let (e, rest) := exponent rest
      some (ds ++ e, rest)

/-- An integer, as a floating-point number where it does not fit 64 bits. -/
def integer? (i : Int) : Option Json :=
  if -0x8000000000000000 ≤ i ∧ i < 0x8000000000000000 then some (.int i)
  else if 0 ≤ i ∧ i < 0x10000000000000000 then none
  else
    let x := Decimal.nearest i.natAbs 0
    some (.float (if i < 0 then -x else x))

/-- The number that the characters of one in base ten spell. -/
def numberOf? (negative : Bool) (cs : List Char) : Option Json :=
  if cs.any fun c => c = '.' || c = 'e' || c = 'E' then
    (Decimal.readDecimal? cs).map fun x => .float (if negative then -x else x)
  else
    let n : Int := Decimal.digitsValue cs
    integer? (if negative then -n else n)

/-- A number, and what follows it. -/
def readNumber? (cs : List Char) : Option (Json × List Char) :=
  let (negative, body) := Decimal.takeSign cs
  let hex := match body with
    | '0' :: x :: rest =>
      if x = 'x' ∨ x = 'X' then rest.takeWhile fun c => (Text.hexDigit? c).isSome else []
    | _ => []
  if !hex.isEmpty then do
    let n : Int ← (Text.hexNumber? hex).filter (· < 0x100000000000000000000000000000000)
    return (← integer? (if negative then -n else n), body.drop (hex.length + 2))
  else if "Infinity".toList.isPrefixOf body then
    some (.float (if negative then -(1 / 0) else 1 / 0), body.drop 8)
  else if "NaN".toList.isPrefixOf body then some (.float (0 / 0), body.drop 3)
  else do
    let (digits, rest) ← decimal? body
    return (← numberOf? negative digits, rest)

/-- The name of a field, and what follows it. -/
def readKey? (cs : List Char) : Option (String × List Char) :=
  match cs with
  | '"' :: rest => readText? '"' (rest.length + 1) [] rest
  | '\'' :: rest => readText? '\'' (rest.length + 1) [] rest
  | _ => readName? (cs.length + 1) [] cs

mutual

/-- A value, and what follows it. The first argument bounds the number of steps. -/
def readValue? : Nat → List Char → Option (Json × List Char)
  | 0, _ => none
  | fuel + 1, cs =>
    match cs with
    | 'n' :: 'u' :: 'l' :: 'l' :: rest => some (.null, rest)
    | 't' :: 'r' :: 'u' :: 'e' :: rest => some (.bool true, rest)
    | 'f' :: 'a' :: 'l' :: 's' :: 'e' :: rest => some (.bool false, rest)
    | '"' :: _ | '\'' :: _ => (readKey? cs).map fun (s, rest) => (.str s, rest)
    | '[' :: rest =>
      match skip rest with
      | ']' :: rest => some (.arr [], rest)
      | rest => readItems? fuel [] rest
    | '\x7b' :: rest =>
      match skip rest with
      | '\x7d' :: rest => some (.obj [], rest)
      | rest => readFields? fuel [] rest
    | _ => readNumber? cs

/-- The items of an array up to its closing bracket, after those already read, last first. -/
def readItems? : Nat → List Json → List Char → Option (Json × List Char)
  | 0, _, _ => none
  | fuel + 1, out, cs => do
    let (v, cs) ← readValue? fuel cs
    match skip cs with
    | ',' :: rest =>
      match skip rest with
      | ']' :: rest => return (.arr (v :: out).reverse, rest)
      | rest => readItems? fuel (v :: out) rest
    | ']' :: rest => return (.arr (v :: out).reverse, rest)
    | _ => none

/-- The fields of an object up to its closing brace, after those already read, last first. -/
def readFields? : Nat → List (String × Json) → List Char → Option (Json × List Char)
  | 0, _, _ => none
  | fuel + 1, out, cs => do
    let (name, cs) ← readKey? cs
    match skip cs with
    | ':' :: rest =>
      let (v, cs) ← readValue? fuel (skip rest)
      let out := (name, v) :: out
      match skip cs with
      | ',' :: rest =>
        match skip rest with
        | '\x7d' :: rest => return (Json.object out.reverse, rest)
        | rest => readFields? fuel out rest
      | '\x7d' :: rest => return (Json.object out.reverse, rest)
      | _ => none
    | _ => none

end

/-- The value that a JSON5 text spells. -/
def read? (s : String) : Option Json := do
  let cs := s.toList
  let (v, rest) ← readValue? (2 * cs.length + 2) (skip cs)
  if (skip rest).isEmpty then return v else none

end Plugboard.Json5
