import Plugboard.Decimal.Nearest

/-!
# Reading numbers

Integers and floating-point numbers from text. An integer is an optional sign and digits; a
floating-point number may also have a point, with digits on at least one side, and an exponent, or
be spelled `inf`, `infinity` or `nan` in any case. A decimal is rounded to the nearest number of a
format, which is the one of 64 bits unless another is named.
-/

namespace Plugboard.Decimal

/-- The value of a run of digits in base ten. -/
def digitsValue (ds : List Char) : Nat :=
  ds.foldl (fun n c => 10 * n + (c.toNat - 48)) 0

/-- Whether a list of characters is a run of at least one digit. -/
def isDigits (ds : List Char) : Bool := !ds.isEmpty && ds.all Char.isDigit

/-- A text without its sign, and whether the sign is a minus. -/
def takeSign : List Char → Bool × List Char
  | '-' :: rest => (true, rest)
  | '+' :: rest => (false, rest)
  | rest => (false, rest)

/-- The integer that a text spells, if it fits 64 bits. -/
def readInt? (cs : List Char) : Option Int :=
  let (negative, ds) := takeSign cs
  if isDigits ds then
    let n : Int := digitsValue ds
    let i := if negative then -n else n
    if -0x8000000000000000 ≤ i ∧ i < 0x8000000000000000 then some i else none
  else none

/-- The number of a format that is nearest to `digits · 10 ^ exponent`. Exponents far outside the
    range of floating-point numbers are settled by the count of digits. -/
def nearestIn (g : Grid) (digits : Nat) (exponent : Int) : Float :=
  let count : Int := (Nat.toDigits 10 digits).length
  if digits = 0 ∨ count + exponent < -400 then 0
  else if 400 < count + exponent then 1 / 0
  else if 0 ≤ exponent then g.nearest (digits * Nat.pow 10 exponent.toNat) 1
  else g.nearest digits (Nat.pow 10 (-exponent).toNat)

/-- The number of 64 bits that is nearest to `digits · 10 ^ exponent`. -/
def nearest (digits : Nat) (exponent : Int) : Float := nearestIn .double digits exponent

/-- The exponent that follows an `e`, none where the text goes on after it. -/
def readExponent? : List Char → Option Int
  | [] => some 0
  | c :: rest =>
    if c = 'e' ∨ c = 'E' then
      let (negative, ds) := takeSign rest
      if isDigits ds then
        let n : Int := digitsValue ds
        some (if negative then -n else n)
      else none
    else none

/-- The magnitude of an unsigned decimal in a format. -/
def readDecimalIn? (g : Grid) (cs : List Char) : Option Float :=
  let whole := cs.takeWhile Char.isDigit
  let rest := cs.dropWhile Char.isDigit
  let (fraction, tail) := match rest with
    | '.' :: more => (more.takeWhile Char.isDigit, more.dropWhile Char.isDigit)
    | _ => ([], rest)
  if whole.isEmpty && fraction.isEmpty then none
  else (readExponent? tail).map fun e =>
    nearestIn g (digitsValue (whole ++ fraction)) (e - fraction.length)

/-- The magnitude of an unsigned decimal. -/
def readDecimal? (cs : List Char) : Option Float := readDecimalIn? .double cs

/-- The floating-point number that a text spells. -/
def readFloat? (cs : List Char) : Option Float :=
  let (negative, body) := takeSign cs
  let word := String.ofList (body.map Char.toLower)
  let magnitude :=
    if word = "inf" ∨ word = "infinity" then some (1 / 0)
    else if word = "nan" then some (0 / 0)
    else readDecimal? body
  magnitude.map fun x => if negative then -x else x

end Plugboard.Decimal
