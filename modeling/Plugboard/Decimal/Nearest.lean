/-!
# The nearest floating-point number

A format of binary floating-point numbers keeps so many bits of a number, and none below a least
power of two. `Grid.nearest` gives the number of a format that is nearest to a quotient; of two that
are equally near it gives the one whose last bit is zero. All arithmetic is on natural numbers, so
nothing is lost before the one rounding.
-/

namespace Plugboard.Decimal

/-- The positive numbers of a format. -/
structure Grid where
  /-- How many bits of a number are kept. -/
  bits : Nat
  /-- The power of two that the last bit of the least number counts. -/
  least : Int
  /-- The power of two that is beyond all numbers. -/
  limit : Int

/-- The format of 64 bits. -/
def Grid.double : Grid := ⟨53, -1074, 1024⟩

/-- The format of 32 bits. -/
def Grid.single : Grid := ⟨24, -149, 128⟩

/-- The integer nearest to a quotient; a half goes to the even neighbour. -/
def roundQuotient (num den : Nat) : Nat :=
  let below := num / den
  let rest := num % den
  if den < 2 * rest ∨ (den = 2 * rest ∧ below % 2 = 1) then below + 1 else below

/-- The greatest power of two that is at most a positive quotient. -/
def binaryMagnitude (num den : Nat) : Int :=
  -- the quotient lies between the powers before and behind this one
  let k : Int := (num.log2 : Int) - den.log2
  let reached := if 0 ≤ k then den <<< k.toNat ≤ num else den ≤ num <<< (-k).toNat
  if reached then k else k - 1

/-- The number of a format that is nearest to a quotient, infinity if that is beyond all. -/
def Grid.nearest (g : Grid) (num den : Nat) : Float :=
  if num = 0 then 0
  else
    let q := max g.least (binaryMagnitude num den - g.bits + 1)
    let m := if 0 ≤ q then roundQuotient num (den <<< q.toNat)
      else roundQuotient (num <<< (-q).toNat) den
    if g.limit ≤ m.log2 + q then 1 / 0 else (UInt64.ofNat m).toFloat.scaleB q

end Plugboard.Decimal
