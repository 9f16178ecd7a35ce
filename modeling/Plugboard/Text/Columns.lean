import Plugboard.Text.CharColumns
import Plugboard.Text.Emoji

/-!
# Display columns

How many columns of a fixed-width display a text takes. Most characters take the columns that they
take by themselves, but some are joined with those that follow them: pictures with selectors, tones
of skin and further pictures, letters with marks and with letters of their script.

So a text is read from its end. What stands behind a place is summed up in a `Following`, and
`before` says how many columns a character before it adds and what then follows the place before
that character. A character that joins others whose columns were counted already may add a negative
number of columns.
-/

namespace Plugboard.Text

/-- A sign that chooses a form of the character before it. -/
inductive Selector where
  /-- The form of text. -/
  | text
  /-- The form of a picture. -/
  | picture
  /-- The wide form of a quotation mark. -/
  | wide
  deriving Repr, DecidableEq

/-- The character or sequence that begins at a place, as far as the columns of what stands before it
    depend on it. -/
inductive Opening where
  /-- Nothing that matters. -/
  | plain
  /-- A line feed. -/
  | lineFeed
  /-- A picture, or a sequence shown as one. -/
  | picture
  /-- A tone of skin. -/
  | modifier
  /-- A letter for flags. -/
  | regional
  /-- Two or more letters for flags. -/
  | regionals
  /-- A joiner and a picture. -/
  | joined
  /-- A keycap, a joiner and a picture. -/
  | joinedKeycap
  /-- A letter for flags, a joiner and a picture. -/
  | joinedRegional
  /-- An even number of letters for flags, a joiner and a picture. -/
  | joinedEven
  /-- An odd number of letters for flags above one, a joiner and a picture. -/
  | joinedOdd
  /-- This many letters that tag a flag, an end of tags, a joiner and a picture. -/
  | tagLetters (count : Nat)
  /-- This many digits that tag a flag, and what may follow them. -/
  | tagDigits (count : Nat)
  /-- An alef of the Arabic script. -/
  | alef
  /-- A lamed of the Hebrew script, perhaps behind a joiner. -/
  | lamed (joiner : Bool)
  /-- A letter of the Khmer script that can stand below another. -/
  | khmer
  /-- A ya of the Buginese script, perhaps behind a joiner. -/
  | ya (joiner : Bool)
  /-- The vowel i of the Buginese script, a joiner and a ya. -/
  | joinedYa
  /-- A consonant of the Tifinagh script, perhaps behind a joiner. -/
  | tifinagh (joiner : Bool)
  /-- A sign that joins consonants of the Tifinagh script, and a consonant. -/
  | joinedTifinagh
  /-- The second tone of a pair of the Lisu script. -/
  | lisu
  /-- An i of the Old Turkic script, perhaps behind a joiner. -/
  | turkic (joiner : Bool)
  /-- A vowel e of the Kirat Rai script. -/
  | kiratE
  /-- A vowel ai of the Kirat Rai script. -/
  | kiratAi
  deriving Repr, DecidableEq

namespace Opening

/-- The same letter behind a joiner, if a ligature needs one. -/
def behindJoiner? : Opening → Option Opening
  | .lamed _ => some (.lamed true)
  | .ya _ => some (.ya true)
  | .tifinagh _ => some (.tifinagh true)
  | .turkic _ => some (.turkic true)
  | _ => none

/-- Whether a ligature may end here, so that characters which it is made across change nothing. -/
def isLigature : Opening → Bool
  | .lamed _ | .khmer | .ya _ | .joinedYa => true
  | .tifinagh _ | .joinedTifinagh | .lisu | .turkic _ => true
  | _ => false

/-- Whether a selector before it leaves it in sight. -/
def staysBehind (selector : Selector) : Opening → Bool
  | .alef => true
  | .joined | .joinedKeycap => selector = .picture
  | o => o.isLigature

end Opening

/-- What follows a place in a text, as far as the columns of what stands before it depend on it. -/
structure Following where
  /-- What begins there, behind the selector. -/
  opening : Opening := .plain
  /-- A selector at the very place. -/
  selector : Option Selector := none
  deriving Repr, DecidableEq

namespace Following

/-- What follows a selector before it. -/
def select (f : Following) (selector : Selector) : Following :=
  if f.opening.staysBehind selector then { f with selector := some selector }
  else { selector := some selector }

/-- What follows behind a selector that has no effect. -/
def unselect (f : Following) : Following :=
  if f.opening = .alef ∨ f.opening.isLigature then { f with selector := none } else {}

end Following

/-- Ranges of the code points that take no column and keep the letters around them apart. -/
def opaqueRanges : List (Nat × Nat) := [
    (0x605, 0x605), (0x890, 0x891), (0x8E2, 0x8E2), (0x9BE, 0x9BE), (0x9D7, 0x9D7),
    (0xB3E, 0xB3E), (0xB57, 0xB57), (0xBBE, 0xBBE), (0xBD7, 0xBD7), (0xCC0, 0xCC0),
    (0xCC2, 0xCC2), (0xCC7, 0xCC8), (0xCCA, 0xCCB), (0xCD5, 0xCD6), (0xD3E, 0xD3E),
    (0xD4E, 0xD4E), (0xD57, 0xD57), (0xDCF, 0xDCF), (0xDDF, 0xDDF), (0x1160, 0x11FF),
    (0x1715, 0x1715), (0x1734, 0x1734), (0x180E, 0x180E), (0x1B35, 0x1B35), (0x1B3B, 0x1B3B),
    (0x1B3D, 0x1B3D), (0x1B43, 0x1B44), (0x1BAA, 0x1BAA), (0x1BF2, 0x1BF3), (0x200C, 0x200D),
    (0x2065, 0x2069), (0x302E, 0x302F), (0x3164, 0x3164), (0xA8FA, 0xA8FA), (0xA953, 0xA953),
    (0xA9C0, 0xA9C0), (0xD7B0, 0xD7C6), (0xD7CB, 0xD7FB), (0xFFA0, 0xFFA0), (0xFFF0, 0xFFF8),
    (0x111C0, 0x111C0), (0x111C2, 0x111C3), (0x11235, 0x11235), (0x1133E, 0x1133E),
    (0x1134D, 0x1134D), (0x11357, 0x11357), (0x113B8, 0x113B8), (0x113C2, 0x113C2),
    (0x113C5, 0x113C5), (0x113C7, 0x113C9), (0x113CF, 0x113CF), (0x113D1, 0x113D1),
    (0x114B0, 0x114B0), (0x114BD, 0x114BD), (0x115AF, 0x115AF), (0x116B6, 0x116B6),
    (0x11930, 0x11930), (0x1193D, 0x1193D), (0x1193F, 0x1193F), (0x11941, 0x11941),
    (0x11A84, 0x11A89), (0x11D46, 0x11D46), (0x11F02, 0x11F02), (0x11F41, 0x11F41),
    (0x16FF0, 0x16FF1), (0x1D165, 0x1D166), (0x1D16D, 0x1D172), (0xE0000, 0xE0000),
    (0xE0002, 0xE001F), (0xE0080, 0xE00FF), (0xE01F0, 0xE0FFF)
  ]

/-- Whether a letter is joined with the next one across a character without columns. -/
def isTransparent (c : Char) : Bool :=
  charColumns c = 0 && !inRanges opaqueRanges c.toNat

/-- Whether a ligature is made across a character. -/
def isIgnored (c : Char) : Bool :=
  inRanges [(0x034F, 0x034F), (0x17B4, 0x17B5), (0x180B, 0x180D), (0x180F, 0x180F),
    (0x200D, 0x200D), (0xFE00, 0xFE0F), (0xE0100, 0xE01EF)] c.toNat

/-- Ranges of the alefs of the Arabic script. -/
def alefRanges : List (Nat × Nat) :=
  [(0x622, 0x623), (0x625, 0x625), (0x627, 0x627), (0x671, 0x673), (0x675, 0x675),
    (0x773, 0x774), (0x870, 0x882)]

/-- Ranges of the letters of the Khmer script that can stand below another. -/
def khmerRanges : List (Nat × Nat) :=
  [(0x1780, 0x1782), (0x1784, 0x1787), (0x1789, 0x178C), (0x178E, 0x1793), (0x1795, 0x1798),
    (0x179B, 0x179D), (0x17A0, 0x17A0), (0x17A2, 0x17A2), (0x17A7, 0x17A7), (0x17AB, 0x17AC),
    (0x17AF, 0x17AF)]

/-- Whether a character is a lam of the Arabic script. -/
def isLam (c : Char) : Bool :=
  inRanges [(0x644, 0x644), (0x6B5, 0x6B8), (0x76A, 0x76A), (0x8A6, 0x8A6), (0x8C7, 0x8C7)] c.toNat

/-- Whether a character is a consonant of the Tifinagh script. -/
def isTifinagh (c : Char) : Bool := inRanges [(0x2D31, 0x2D65), (0x2D6F, 0x2D6F)] c.toNat

/-- Whether a character is a quotation mark with a wide form. -/
def isWidenable (c : Char) : Bool := c = '‘' || c = '’' || c = '“' || c = '”'

/-- What a character begins by itself. -/
def openingOf (c : Char) : Opening :=
  let n := c.toNat
  if n = 0x5DC then .lamed false
  else if inRanges alefRanges n then .alef
  else if inRanges khmerRanges n then .khmer
  else if n = 0x1A10 then .ya false
  else if isTifinagh c then .tifinagh false
  else if n = 0xA4FC ∨ n = 0xA4FD then .lisu
  else if n = 0x10C03 then .turkic false
  else if n = 0x16D67 then .kiratE
  else if n = 0x16D68 then .kiratAi
  else if isRegional c then .regional
  else if isModifier c then .modifier
  else if isEmoji c then .picture
  else .plain

/-- The selector that a character is. -/
def selectorOf? (c : Char) : Option Selector :=
  if c.toNat = 0xFE01 then some .wide
  else if c.toNat = 0xFE0E then some .text
  else if c.toNat = 0xFE0F then some .picture
  else none

/-- The columns that a character of a picture made of several adds before what follows it, and what
    begins with it. -/
def extendPicture? (o : Opening) (c : Char) : Option (Int × Opening) :=
  let n := c.toNat
  let isLetter := 0xE0061 ≤ n ∧ n ≤ 0xE007A
  let isDigit := 0xE0030 ≤ n ∧ n ≤ 0xE0039
  match o with
  | .modifier =>
    if isModifiable c then some (0, .picture) else if n = 0x200D then some (0, .joined) else none
  | .regional => if isRegional c then some (1, .regionals) else none
  | .regionals =>
    if isRegional c then some (1, .regionals) else if n = 0x200D then some (0, .joined) else none
  | .picture => if n = 0x200D then some (0, .joined) else none
  | .joined =>
    if n = 0x20E3 then some (0, .joinedKeycap)
    else if isRegional c then some (1, .joinedRegional)
    else if isModifier c then some (0, .modifier)
    else if n = 0xE007F then some (0, .tagLetters 0)
    else if isEmoji c then some (0, .picture)
    else none
  | .joinedRegional => if isRegional c then some (-1, .joinedEven) else none
  | .joinedOdd =>
    if isRegional c then some (-1, .joinedEven) else if n = 0x200D then some (0, .joined) else none
  | .joinedEven =>
    if isRegional c then some (3, .joinedOdd) else if n = 0x200D then some (0, .joined) else none
  | .tagLetters count =>
    if isLetter ∧ count < 6 then some (0, .tagLetters (count + 1))
    else if isDigit ∧ count ≤ 4 then some (0, .tagDigits 1)
    else if n = 0x1F3F4 ∧ 3 ≤ count then some (0, .picture)
    else none
  | .tagDigits count =>
    if isDigit ∧ count < 3 then some (0, .tagDigits (count + 1))
    else if n = 0x1F3F4 ∧ count = 3 then some (0, .picture)
    else none
  | _ => none

/-- The columns that a letter of a ligature adds before what follows it, and what begins with it. -/
def extendLetters? (o : Opening) (c : Char) : Option (Int × Opening) :=
  let n := c.toNat
  match o with
  | .alef =>
    if isLam c then some (0, .plain) else if isTransparent c then some (0, .alef) else none
  | .lamed true => if n = 0x5D0 then some (0, .plain) else none
  | .khmer => if n = 0x17D2 then some (-1, .plain) else none
  | .ya true => if n = 0x1A17 then some (0, .joinedYa) else none
  | .joinedYa => if n = 0x1A15 then some (0, .plain) else none
  | .tifinagh joiner =>
    if n = 0x2D7F then some (1, .joinedTifinagh)
    else if joiner && isTifinagh c then some (0, .plain)
    else none
  | .joinedTifinagh => if isTifinagh c then some (-1, .plain) else none
  | .lisu => if 0xA4F8 ≤ n ∧ n ≤ 0xA4FB then some (0, .plain) else none
  | .turkic true => if n = 0x10C32 then some (0, .plain) else none
  | .kiratE =>
    if n = 0x16D63 ∨ n = 0x16D69 then some (0, .plain)
    else if n = 0x16D67 then some (0, .kiratAi)
    else if n = 0x16D68 then some (1, .kiratE)
    else none
  | .kiratAi => if n = 0x16D63 then some (0, .plain) else none
  | _ => none

/-- The columns that a character adds before an opening with which it may be joined, and what
    follows the place before it. -/
def beforeOpening (c : Char) (o : Opening) : Int × Following :=
  let joiner? := if c.toNat = 0x200D then o.behindJoiner? else none
  match joiner?, extendPicture? o c <|> extendLetters? o c with
  | some opening, _ => (0, { opening })
  | none, some (width, opening) => (width, { opening })
  | none, none =>
    if o.isLigature && isIgnored c then (0, { opening := o })
    else (charColumns c, { opening := openingOf c })

/-- The columns that a character adds before what follows it, and what follows the place before
    it. -/
def before (c : Char) (f : Following) : Int × Following :=
  if f.selector = some .picture ∧ isSelectable c then
    (if f.opening = .joined ∨ f.opening = .joinedKeycap then 0 else 2, { opening := .picture })
  else if c = '\n' then (1, { opening := .lineFeed })
  else if c = '\r' then (if f.opening = .lineFeed then 0 else 1, {})
  else if c.toNat ≤ 0xA0 then (1, {})
  else match selectorOf? c, f.selector with
    | some selector, some .picture => (0, f.unselect.select selector)
    | some selector, _ => (0, f.select selector)
    | none, some .text =>
      if isNarrowable c then (1, {}) else beforeOpening c f.unselect.opening
    | none, some .wide => if isWidenable c then (2, {}) else beforeOpening c f.unselect.opening
    | none, some .picture => beforeOpening c f.unselect.opening
    | none, none => beforeOpening c f.opening

/-- The columns that characters take, and what follows the place before them. -/
def columnsOf : List Char → Int × Following
  | [] => (0, {})
  | c :: rest =>
    let (width, f) := columnsOf rest
    let (more, f) := before c f
    (width + more, f)

/-- The columns that a text takes. -/
def columns (s : String) : Nat := (columnsOf s.toList).1.toNat

/-- A text followed by as many spaces as it falls short of `width` columns. -/
def padTo (width : Nat) (s : String) : String :=
  s ++ .ofList (List.replicate (width - columns s) ' ')

end Plugboard.Text
