import Plugboard.Decimal.Reading
import Plugboard.Json.Basic
import Plugboard.Text.Hex

/-!
# Numbers in RON

An integer is written in base ten, or in another behind `0x`, `0o` or `0b`. Underscores may part the
digits. The kind of a number may stand behind it, as in `1u8` or `0.1f32`; an integer of a kind has
to fit it, and a floating-point number of 32 bits is rounded to those. Without one, an integer that
does not fit 64 bits is a floating-point number.

Two numbers with points between them are the start and the end of a range; either may be missing.
-/

namespace Plugboard.Ron

/-! ## Integers -/

/-- The number that digits of a base spell; underscores may part them. -/
def inBase? (base : Nat) (cs : List Char) : Option Nat := do
  if cs.isEmpty ∨ cs.head? = some '_' then none
  let ds ← (cs.filter (· ≠ '_')).mapM fun c => (Text.hexDigit? c).filter (· < base)
  return ds.foldl (base * · + ·) 0

/-- The number that digits spell in the base that they name. -/
def natural? : List Char → Option Nat
  | '0' :: 'x' :: ds => inBase? 16 ds
  | '0' :: 'o' :: ds => inBase? 8 ds
  | '0' :: 'b' :: ds => inBase? 2 ds
  | ds => inBase? 10 ds

/-- The kinds of integers: the least of each, and the first above all. -/
def intKinds : List (String × Int × Int) :=
  [("i8", -0x80, 0x80), ("i16", -0x8000, 0x8000), ("i32", -0x80000000, 0x80000000),
    ("i64", -0x8000000000000000, 0x8000000000000000), ("u8", 0, 0x100), ("u16", 0, 0x10000),
    ("u32", 0, 0x100000000), ("u64", 0, 0x10000000000000000),
    -- no kind
    ("", -0x8000000000000000, 0x10000000000000000)]

/-- An integer without its sign, if it fits its kind. -/
def integer? (negative : Bool) (cs : List Char) : Option Int := do
  let digits := cs.takeWhile fun c => c ≠ 'i' ∧ c ≠ 'u'
  let n : Int ← natural? digits
  let i := if negative then -n else n
  let (low, high) ← intKinds.lookup (.ofList (cs.drop digits.length))
  if low ≤ i ∧ i < high then some i else none

/-! ## Floating-point numbers -/

/-- The words for infinity and for no number. -/
def wordValue? (word : String) : Option Float :=
  if ["inf", "inff32", "inff64"].contains word then some (1 / 0)
  else if ["NaN", "NaNf32", "NaNf64"].contains word then some (0 / 0)
  else none

/-- The characters of a decimal without its underscores; there may be one behind a digit or an
    exponent's letter and sign, which `may` tells. -/
def dropUnderscores? (may : Bool) : List Char → Option (List Char)
  | [] => some []
  | '_' :: rest => if may then dropUnderscores? may rest else none
  | '.' :: rest => (dropUnderscores? false rest).map ('.' :: ·)
  | c :: rest =>
    (dropUnderscores? (may || c.isDigit || c = 'e' || c = 'E') rest).map (c :: ·)

/-- A floating-point number without its sign. -/
def decimal? (cs : List Char) : Option Float :=
  let digits := cs.takeWhile (· ≠ 'f')
  let grid? : Option Decimal.Grid := match String.ofList (cs.drop digits.length) with
    | "" | "f64" => some .double
    | "f32" => some .single
    | _ => none
  wordValue? (.ofList cs) <|> do Decimal.readDecimalIn? (← grid?) (← dropUnderscores? false digits)

/-! ## Numbers and ranges -/

/-- The number that characters spell. -/
def numberOf? (cs : List Char) : Option Json :=
  let (negative, body) := Decimal.takeSign cs
  (integer? negative body).map .int <|>
    (decimal? body).map fun x => .float (if negative then -x else x)

/-- Whether a character may stand in a number. -/
def isNumberChar (c : Char) : Bool :=
  c.isAlphanum || c = '_' || c = '.' || c = '+' || c = '-'

/-- The characters before two points, and those behind them, if there are such. -/
def splitRange? (out : List Char) : List Char → Option (List Char × List Char)
  | '.' :: '.' :: rest => some (out.reverse, rest)
  | c :: rest => splitRange? (c :: out) rest
  | [] => none

/-- An end of a range under its name, if it is there. -/
def bound? (name : String) (cs : List Char) : Option (List (String × Json)) :=
  if cs.isEmpty then some [] else (numberOf? cs).map fun v => [(name, v)]

/-- A number or a range, and what follows it. -/
def readNumber? (cs : List Char) : Option (Json × List Char) := do
  let word := cs.takeWhile isNumberChar
  let rest := cs.drop word.length
  match splitRange? [] word with
  | none => return (← numberOf? word, rest)
  | some (low, high) =>
    -- the end itself belongs to a range with an equals sign
    let (high, rest) := match high, rest with
      | [], '=' :: more =>
        let high := more.takeWhile isNumberChar
        (high, more.drop high.length)
      | _, _ => (high, rest)
    let bounds := (← bound? "start" low) ++ (← bound? "end" high)
    return (if bounds.isEmpty then .null else .obj bounds, rest)

end Plugboard.Ron
