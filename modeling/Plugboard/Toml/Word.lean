import Plugboard.Json.Basic
import Plugboard.Toml.Moment
import Plugboard.Toml.Quoted

/-!
# Words in TOML

A value that stands without quotes is a word: a truth value, an integer in base ten, sixteen, eight
or two, a floating-point number, or a moment. Digits may be parted by single underscores, and a
number in base ten begins with no zero but its only one. An integer fits 64 bits, a decimal the
range of floating-point numbers.
-/

namespace Plugboard.Toml

/-- The digits of a run in which single underscores part digits; none of another form. -/
def parted? (isDigit : Char → Bool) : List Char → Option (List Char)
  | [] => none
  | [c] => if isDigit c then some [c] else none
  | c :: '_' :: rest => if isDigit c then (parted? isDigit rest).map (c :: ·) else none
  | c :: rest => if isDigit c then (parted? isDigit rest).map (c :: ·) else none

/-- The digits of a number in base ten before its point. -/
def whole? (cs : List Char) : Option (List Char) := do
  let ds ← parted? Char.isDigit cs
  match ds with
  | '0' :: _ :: _ => none
  | _ => return ds

/-- An integer, if it fits 64 bits. -/
def intOf? (i : Int) : Option Json :=
  if -0x8000000000000000 ≤ i ∧ i < 0x8000000000000000 then some (.int i) else none

/-- The integer that digits of a base spell. -/
def inBase? (base : Nat) (cs : List Char) : Option Json := do
  let ds ← parted? (fun c => (Text.hexDigit? c).any (· < base)) cs
  intOf? (ds.foldl (fun n c => base * n + (Text.hexDigit? c).getD 0) 0 : Nat)

/-- The integer that a word spells in base ten, with or without a sign. -/
def readWhole? (cs : List Char) : Option Int := do
  let (negative, body) := Decimal.takeSign cs
  let n : Int := Decimal.digitsValue (← whole? body)
  return if negative then -n else n

/-- Characters before and after the first that satisfies `p`; the latter with it, if there is
    one. -/
def splitBefore (p : Char → Bool) (cs : List Char) : List Char × List Char :=
  (cs.takeWhile fun c => !p c, cs.dropWhile fun c => !p c)

/-- The digits behind the point of a number, where there is one. -/
def fraction? : List Char → Option (List Char)
  | [] => some []
  | _ :: more => parted? Char.isDigit more

/-- The exponent of a number behind the letter for it, where there is one. -/
def exponent? : List Char → Option Int
  | [] => some 0
  | _ :: more => do
    let (negative, body) := Decimal.takeSign more
    let n : Int := Decimal.digitsValue (← parted? Char.isDigit body)
    return if negative then -n else n

/-- A floating-point number in base ten. -/
def readFloat? (cs : List Char) : Option Json := do
  let (negative, body) := Decimal.takeSign cs
  let (mantissa, tail) := splitBefore (fun c => c = 'e' || c = 'E') body
  let (front, point) := splitBefore (· = '.') mantissa
  let ws ← whole? front
  let fs ← fraction? point
  let e ← exponent? tail
  let x := Decimal.nearest (Decimal.digitsValue (ws ++ fs)) (e - fs.length)
  if x.isInf then none else return .float (if negative then -x else x)

/-- The special numbers. -/
def readSpecial? (cs : List Char) : Option Json :=
  let (negative, body) := Decimal.takeSign cs
  let signed (x : Float) : Json := .float (if negative then -x else x)
  match body with
  | ['i', 'n', 'f'] => some (signed (1 / 0))
  | ['n', 'a', 'n'] => some (signed (0 / 0))
  | _ => none

/-- The value of a word. -/
def readWord? (cs : List Char) : Option Json :=
  match cs with
  | ['t', 'r', 'u', 'e'] => some (.bool true)
  | ['f', 'a', 'l', 's', 'e'] => some (.bool false)
  | '0' :: 'x' :: ds => inBase? 16 ds
  | '0' :: 'o' :: ds => inBase? 8 ds
  | '0' :: 'b' :: ds => inBase? 2 ds
  | _ =>
    match readWhole? cs with
    | some i => intOf? i
    | none => readFloat? cs <|> readSpecial? cs <|> (readMoment? cs).map .str

end Plugboard.Toml
