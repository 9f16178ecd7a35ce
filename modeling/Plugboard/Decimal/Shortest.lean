/-!
# The fewest digits that read back

A positive finite binary floating-point number is `m · 2 ^ q`. The decimals that round to it form
an interval around it, whose ends belong to it exactly when `m` is even. `shortest` gives the
decimal of fewest digits in that interval and, of two with equally many digits, the nearer one.

All arithmetic is on natural numbers: the number and the ends of its interval are numerators over
one denominator.
-/

namespace Plugboard.Decimal

/-- The decimal `digits · 10 ^ exponent`. -/
structure Scaled where
  /-- The digits, read as one number. -/
  digits : Nat
  /-- The power of ten that the last digit counts. -/
  exponent : Int
  deriving Repr, DecidableEq

/-- A positive number and the interval of the reals that round to it, over one denominator. -/
structure Rounding where
  /-- Numerator of the lower end. -/
  low : Nat
  /-- Numerator of the number. -/
  value : Nat
  /-- Numerator of the upper end. -/
  high : Nat
  /-- The common denominator. -/
  den : Nat
  /-- Whether the ends belong to the interval. -/
  closed : Bool

/-- The number `m · 2 ^ q` with the interval that rounds to it. Below a power of two that is not
    the least one the neighbouring number is only half as far away as above. -/
def Rounding.ofBinary (m : Nat) (q : Int) (least : Bool) : Rounding :=
  let scale := if 2 ≤ q then Nat.pow 2 (q - 2).toNat else 1
  let below := if m = 0x10000000000000 ∧ least = false then 1 else 2
  { low := (4 * m - below) * scale
    value := 4 * m * scale
    high := (4 * m + 2) * scale
    den := if 2 ≤ q then 1 else Nat.pow 2 (2 - q).toNat
    closed := m % 2 = 0 }

/-- The significand and the power of two of the positive finite number with these bits, and whether
    it is in the range of the least power of two. -/
def binaryOfBits (bits : UInt64) : Nat × Int × Bool :=
  let n : Nat := bits.toNat
  let fraction : Nat := n % 0x10000000000000
  let power : Nat := n / 0x10000000000000 % 0x800
  if power = 0 then (fraction, -1074, true)
  else (0x10000000000000 + fraction, (power : Int) - 1075, power = 1)

/-- Whether the decimal `d · 10 ^ k` rounds to the number. -/
def Rounding.holds (r : Rounding) (d : Nat) (k : Int) : Bool :=
  let up := if 0 ≤ k then Nat.pow 10 k.toNat else 1
  let down := if 0 ≤ k then 1 else Nat.pow 10 (-k).toNat
  let x := d * up * r.den
  let low := r.low * down
  let high := r.high * down
  if r.closed then low ≤ x && x ≤ high else low < x && x < high

/-- The power of ten of the first digit of the number. -/
def Rounding.magnitude (r : Rounding) : Int :=
  if r.den ≤ r.value then ((Nat.toDigits 10 (r.value / r.den)).length : Int) - 1
  else -((Nat.toDigits 10 ((r.den - 1) / r.value)).length : Int)

/-- The nearer of the number's two neighbours on the grid of `count`-digit decimals that rounds to
    it, if one of them does. -/
def Rounding.onGrid (r : Rounding) (count : Nat) : Option Scaled :=
  let k := r.magnitude - count + 1
  let up := if 0 ≤ k then Nat.pow 10 k.toNat else 1
  let down := if 0 ≤ k then 1 else Nat.pow 10 (-k).toNat
  let unit := r.den * up
  -- the neighbours are `below` and `below + 1`; the number lies `rest / unit` above the first
  let below := r.value * down / unit
  let rest := r.value * down % unit
  let nearAbove := unit < 2 * rest || (unit = 2 * rest && below % 2 = 1)
  match r.holds below k, r.holds (below + 1) k with
  | true, true => some ⟨if nearAbove then below + 1 else below, k⟩
  | true, false => some ⟨below, k⟩
  | false, true => some ⟨below + 1, k⟩
  | false, false => none

/-- A decimal without the zeros at its end. -/
def Scaled.strip (fuel : Nat) (s : Scaled) : Scaled :=
  match fuel with
  | 0 => s
  | fuel + 1 =>
    if s.digits ≠ 0 ∧ s.digits % 10 = 0 then Scaled.strip fuel ⟨s.digits / 10, s.exponent + 1⟩
    else s

/-- The decimal of fewest digits that rounds to the positive finite number with these bits.
    Seventeen digits always suffice. -/
def shortest (bits : UInt64) : Scaled :=
  let (m, q, least) := binaryOfBits bits
  let r := Rounding.ofBinary m q least
  match (List.range 17).findSome? fun i => r.onGrid (i + 1) with
  | some s => s.strip 17
  | none => ⟨m, 0⟩

end Plugboard.Decimal
