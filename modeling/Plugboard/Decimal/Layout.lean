import Plugboard.Decimal.Shortest

/-!
# Writing floating-point numbers

A `Layout` fixes how the digits of a number are set out: for which positions of the decimal point
the number is written without an exponent, and whether a whole number keeps a point and a zero.
`plain` is the layout of text shown to people, always without an exponent.
-/

namespace Plugboard.Decimal

/-- How the digits of a number are set out. -/
structure Layout where
  /-- The positions of the point, counted from the first digit, between which the number is written
      without an exponent; none where it always is. -/
  positional : Option (Int × Int)
  /-- Whether a whole number written without an exponent ends in a point and a zero. -/
  pointZero : Bool
  deriving Repr, DecidableEq

/-- Numbers are always written without an exponent, whole numbers without a point. -/
def plain : Layout := ⟨none, false⟩

/-- The digits `ds` with the decimal point after the first `point` of them. -/
def setPoint (layout : Layout) (ds : List Char) (point : Int) : List Char :=
  let count : Int := ds.length
  if point ≤ 0 then ['0', '.'] ++ List.replicate (-point).toNat '0' ++ ds
  else if count ≤ point then
    ds ++ List.replicate (point - count).toNat '0' ++ (if layout.pointZero then ['.', '0'] else [])
  else ds.take point.toNat ++ '.' :: ds.drop point.toNat

/-- The digits `ds` with an exponent, the point after the first digit. -/
def withExponent (ds : List Char) (point : Int) : List Char :=
  let power := point - 1
  let sign := if power < 0 then '-' else '+'
  let tail := 'e' :: sign :: Nat.toDigits 10 power.natAbs
  match ds with
  | [] => tail
  | [d] => d :: tail
  | d :: more => d :: '.' :: more ++ tail

/-- The text of a positive decimal. -/
def Layout.write (layout : Layout) (s : Scaled) : List Char :=
  let ds := Nat.toDigits 10 s.digits
  let point := (ds.length : Int) + s.exponent
  match layout.positional with
  | none => setPoint layout ds point
  | some (least, most) =>
    if least ≤ point ∧ point ≤ most then setPoint layout ds point else withExponent ds point

/-- The text of a floating-point number. -/
def Layout.text (layout : Layout) (x : Float) : String :=
  let bits := x.toBits
  let negative := 0x8000000000000000 ≤ bits.toNat
  let magnitude := bits.toNat % 0x8000000000000000
  if 0x7FF0000000000000 < magnitude then "NaN"
  else
    let body :=
      if magnitude = 0x7FF0000000000000 then ['i', 'n', 'f']
      else if magnitude = 0 then if layout.pointZero then ['0', '.', '0'] else ['0']
      else layout.write (shortest (.ofNat magnitude))
    .ofList (if negative then '-' :: body else body)

end Plugboard.Decimal
