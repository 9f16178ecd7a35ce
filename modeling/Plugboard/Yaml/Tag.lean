import Plugboard.Text.Hex
import Plugboard.Yaml.Place
import Plugboard.Yaml.Token

/-!
# Tags and directives of YAML

A tag names the kind of a value. It is a handle and a suffix, such as `!!` and `int`, or stands in
angle brackets; octets in it may be spelled behind percent signs. A directive says something of the
document that follows: what version it has, or what a handle of tags stands for.
-/

namespace Plugboard.Yaml

/-- Whether a character may stand in a handle of tags. -/
def isHandleChar (c : Char) : Bool := c.isAlphanum || c = '-' || c = '_'

/-- Whether a character may stand in a tag in angle brackets. -/
def isUriChar (c : Char) : Bool := isHandleChar c || "#;/?:@&=+$,.!~*'()[]%".toList.contains c

/-- Whether a character may stand in a tag. -/
def isTagChar (c : Char) : Bool := isUriChar c && !isFlow c && c ≠ '!'

/-- The octet that two digits behind a percent sign spell, and what follows them. -/
def percentOctet? : List Char → Option (Nat × List Char)
  | '%' :: a :: b :: rest => (Text.hexNumber? [a, b]).map (·, rest)
  | _ => none

/-- The character that one or two octets behind percent signs spell, and in how many characters. Two
    octets are the higher and the lower half of its code point; more are none of a character. -/
def percentChar? (cs : List Char) : Option (Char × Nat) := do
  let (high, rest) ← percentOctet? cs
  if high < 0x80 then return (Char.ofNat high, 3)
  let (low, _) ← percentOctet? rest
  let code := high * 0x100 + low
  if 0xC0 ≤ high ∧ high < 0xE0 ∧ 0x80 ≤ low ∧ low < 0xC0 ∧ code.isValidChar then
    return (Char.ofNat code, 6)
  else none

/-- The characters of a tag while `p` holds for them, and the place behind them; `out` holds those
    already read. The first argument bounds their number. -/
def tagChars? (p : Char → Bool) : Nat → List Char → Place → Option (List Char × Place)
  | 0, _, _ => none
  | fuel + 1, out, place =>
    match place.next? with
    | some c =>
      if !p c then some (out, place)
      else if c = '%' then do
        let (d, used) ← percentChar? place.rest
        tagChars? p fuel (out ++ [d]) (place.skip used)
      else tagChars? p fuel (out ++ [c]) (place.skip 1)
    | none => some (out, place)

/-- A handle of tags: letters behind an exclamation mark, perhaps before another. -/
def tagHandle? (p : Place) : Option (List Char × Place) :=
  match p.rest with
  | '!' :: rest =>
    let name := rest.takeWhile isHandleChar
    let p := p.skip (name.length + 1)
    if p.next? = some '!' then some ('!' :: name ++ ['!'], p.skip 1) else some ('!' :: name, p)
  | _ => none

/-- A tag: its handle and what follows that, and the place behind. -/
def readTag? (p : Place) : Option (List Char × List Char × Place) := do
  if p.second? = some '<' then
    let p := p.skip 2
    let (suffix, p) ← tagChars? isUriChar (p.rest.length + 1) [] p
    if p.next? = some '>' then return ([], suffix, p.skip 1) else none
  else
    let (handle, p) ← tagHandle? p
    let (more, p) ← tagChars? isTagChar (p.rest.length + 1) [] p
    if 2 ≤ handle.length ∧ handle.getLast? = some '!' then
      if more.isEmpty then none else return (handle, more, p)
    else
      let suffix := handle.drop 1 ++ more
      -- an exclamation mark alone is a tag without a handle
      if suffix.isEmpty then return ([], ['!'], p) else return (['!'], suffix, p)

/-! ## Directives -/

/-- The place behind blanks. -/
def skipAllBlanks (p : Place) : Place := p.skipBlanks (p.rest.takeWhile isBlank).length

/-- The place behind a number of a version. -/
def versionNumber? (p : Place) : Option Place :=
  let ds := p.rest.takeWhile Char.isDigit
  if ds.isEmpty ∨ 9 < ds.length then none else some (p.skip ds.length)

/-- What a directive says, from behind its name, and the place behind it. -/
def directiveBody? (name : List Char) (p : Place) : Option (Token × Place) := do
  if name = "YAML".toList then
    let p ← versionNumber? (skipAllBlanks p)
    if p.next? ≠ some '.' then none
    return (.version, ← versionNumber? (p.skip 1))
  else if name = "TAG".toList then
    let (handle, p) ← tagHandle? (skipAllBlanks p)
    if handle ≠ ['!'] ∧ handle.getLast? ≠ some '!' then none
    let p := skipAllBlanks p
    let first ← p.next?
    if first ≠ '!' ∧ !isTagChar first then none
    let (start, p) ←
      if first = '!' then tagChars? isUriChar (p.rest.length + 1) ['!'] (p.skip 1)
      else tagChars? isUriChar (p.rest.length + 1) [] p
    if endsWord p.next? then return (.tagRule (.ofList handle) (.ofList start), p) else none
  else return (.tagRule "" "", p.skipLine)

end Plugboard.Yaml
