import Plugboard.Decimal.Reading

/-!
# Dates and times in TOML

A moment is a date, a time of day, or both, and with both there may be an offset from universal
time. It is checked against the calendar and written in one form: `T` between date and time, `Z` for
universal time, a fraction of a second without trailing zeros.
-/

namespace Plugboard.Toml

/-- The number that `count` digits spell, and what follows them. -/
def takeDigits? (count : Nat) (cs : List Char) : Option (Nat × List Char) :=
  let ds := cs.take count
  if ds.length = count ∧ ds.all Char.isDigit then
    some (Decimal.digitsValue ds, cs.drop count)
  else none

/-- A number in at least `width` digits. -/
def inDigits (width n : Nat) : List Char :=
  let ds := Nat.toDigits 10 n
  List.replicate (width - ds.length) '0' ++ ds

/-- How many days a month of a year has. -/
def daysIn (year month : Nat) : Nat :=
  if month = 2 then
    if (year % 4 = 0 ∧ year % 100 ≠ 0) ∨ year % 400 = 0 then 29 else 28
  else if month = 4 ∨ month = 6 ∨ month = 9 ∨ month = 11 then 30
  else 31

/-- A date at the start of the characters, and what follows it. -/
def readDate? (cs : List Char) : Option (List Char × List Char) := do
  let (year, cs) ← takeDigits? 4 cs
  let '-' :: cs := cs | none
  let (month, cs) ← takeDigits? 2 cs
  let '-' :: cs := cs | none
  let (day, cs) ← takeDigits? 2 cs
  if 1 ≤ month ∧ month ≤ 12 ∧ 1 ≤ day ∧ day ≤ daysIn year month then
    return (inDigits 4 year ++ '-' :: inDigits 2 month ++ '-' :: inDigits 2 day, cs)
  else none

/-- The fraction of a second at the start of the characters, to nine digits, and what follows it. -/
def readFraction? : List Char → Option (List Char × List Char)
  | '.' :: rest =>
    let ds := rest.takeWhile Char.isDigit
    let kept := ((ds.take 9).reverse.dropWhile (· = '0')).reverse
    if ds.isEmpty then none
    else some ('.' :: (if kept.isEmpty then ['0'] else kept), rest.dropWhile Char.isDigit)
  | cs => some ([], cs)

/-- The seconds of a time of day at the start of the characters, which may be left out. -/
def readSeconds? : List Char → Option (List Char × List Char)
  | ':' :: rest => do
    let (second, cs) ← takeDigits? 2 rest
    let (fraction, cs) ← readFraction? cs
    if second ≤ 60 then return (':' :: inDigits 2 second ++ fraction, cs) else none
  | cs => some ([], cs)

/-- A time of day at the start of the characters, and what follows it. -/
def readTime? (cs : List Char) : Option (List Char × List Char) := do
  let (hour, cs) ← takeDigits? 2 cs
  let ':' :: cs := cs | none
  let (minute, cs) ← takeDigits? 2 cs
  let (seconds, cs) ← readSeconds? cs
  if hour ≤ 23 ∧ minute ≤ 59 then
    return (inDigits 2 hour ++ ':' :: inDigits 2 minute ++ seconds, cs)
  else none

/-- An offset from universal time. -/
def readOffset? : List Char → Option (List Char)
  | [] => some []
  | ['Z'] => some ['Z']
  | ['z'] => some ['Z']
  | sign :: rest => do
    let (hour, cs) ← takeDigits? 2 rest
    let ':' :: cs := cs | none
    let (minute, cs) ← takeDigits? 2 cs
    if (sign = '+' ∨ sign = '-') ∧ hour ≤ 23 ∧ minute ≤ 59 ∧ cs.isEmpty then
      -- no offset at all lies ahead of universal time
      let sign := if hour = 0 ∧ minute = 0 then '+' else sign
      return sign :: inDigits 2 hour ++ ':' :: inDigits 2 minute
    else none

/-- The text of the moment that a word spells. -/
def readMoment? (cs : List Char) : Option String :=
  match readDate? cs with
  | none => do
    let (time, rest) ← readTime? cs
    if rest.isEmpty then return .ofList time else none
  | some (date, []) => some (.ofList date)
  | some (date, sep :: rest) => do
    let (time, rest) ← readTime? rest
    let offset ← readOffset? rest
    if sep = 'T' ∨ sep = 't' ∨ sep = ' ' then return .ofList (date ++ 'T' :: time ++ offset)
    else none

end Plugboard.Toml
