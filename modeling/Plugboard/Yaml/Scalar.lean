import Plugboard.Text.Hex
import Plugboard.Yaml.Place

/-!
# Texts in YAML

A text is written plain, in single or double quotes, or as a block of lines. Lines of a text that
goes over several are joined: a line end becomes a space, but of several in a row all but the first
stay. In a block of lines behind `|` they all stay.
-/

namespace Plugboard.Yaml

/-- So many line ends. -/
def breaks (count : Nat) : List Char := List.replicate count '\n'

/-- What lines are joined with that `count` line ends part. -/
def folded (count : Nat) : List Char := if count = 1 then [' '] else breaks (count - 1)

/-! ## Plain text -/

/-- Whether plain text goes on with a character; `next?` is the one behind it. -/
def isPlain (inFlow : Bool) (c : Char) (next? : Option Char) : Bool :=
  if c = ':' then !(endsWord next? || (inFlow && next?.any isFlow)) else !(inFlow && isFlow c)

/-- The characters of a word of plain text, and the place behind it; `out` holds those already read,
    last first. The first argument bounds their number. -/
def plainWord (inFlow : Bool) : Nat → List Char → Place → List Char × Place
  | 0, out, p => (out, p)
  | fuel + 1, out, p =>
    match p.rest with
    | c :: rest =>
      if !isBlank c && !isBreak c && isPlain inFlow c rest.head? then
        plainWord inFlow fuel (c :: out) (p.skip 1)
      else (out, p)
    | [] => (out, p)

/-- What stands between words of plain text. -/
structure PlainGap where
  /-- The blanks before the first line end. -/
  blanks : List Char := []
  /-- Whether there is a line end. -/
  ended : Bool := false
  /-- How many line ends follow it; one behind a comment is not counted. -/
  more : Nat := 0

/-- What the gap becomes where a word follows it. -/
def PlainGap.text (gap : PlainGap) : List Char :=
  if !gap.ended then gap.blanks else if gap.more = 0 then [' '] else breaks gap.more

/-- What stands between words of plain text, and the place behind. A tab before the column `indent`
    of a later line is refused, unless nothing but a comment follows it on the line. The first
    argument bounds the number of steps. -/
def plainGap? (indent : Int) : Nat → PlainGap → Place → Option (PlainGap × Place)
  | 0, _, _ => none
  | fuel + 1, gap, p =>
    match p.next? with
    | some c =>
      if isBreak c then
        let gap := if p.indented then { gap with more := gap.more + 1 }
          else { gap with blanks := [], ended := true }
        plainGap? indent fuel gap p.skipBreak
      else if !isBlank c then some (gap, p)
      else if !p.indented then
        plainGap? indent fuel { gap with blanks := gap.blanks ++ [c] } (p.skipBlanks 1)
      else if c = '\t' ∧ p.col < indent then do
        let (q, _) ← p.skipGap? true
        if endsLine q.next? then plainGap? indent fuel gap q else none
      else plainGap? indent fuel gap (p.skipBlanks 1)
    | none => some (gap, p)

/-- Plain text whose lines begin at the column `indent` at least, and the place behind it and the
    blanks and line ends after it. `out` holds what is already read, `gap` what parts it from the
    next word. The first argument bounds the number of words. -/
def readPlain? (inFlow : Bool) (indent : Int) :
    Nat → List Char → List Char → Place → Option (List Char × Place)
  | 0, _, _, _ => none
  | fuel + 1, out, gap, p => do
    if p.atAnyMarker || p.next? = some '#' then return (out, p)
    if inFlow && p.next? = some '-' && p.second?.any isFlow then none
    let (word, p) := plainWord inFlow (p.rest.length + 1) [] p
    let out := if word.isEmpty then out else out ++ gap ++ word.reverse
    if !(p.next?.any fun c => isBlank c || isBreak c) then return (out, p)
    let (gap, p) ← plainGap? indent (p.rest.length + 1) {} p
    if !inFlow && p.col < indent then return (out, p)
    readPlain? inFlow indent fuel out gap.text p

/-! ## Text in quotes -/

/-- The characters that a backslash and one character stand for. -/
def escapes : List (Char × Char) :=
  [('0', '\x00'), ('a', '\x07'), ('b', '\x08'), ('t', '\t'), ('\t', '\t'), ('n', '\n'),
    ('v', '\x0B'), ('f', '\x0C'), ('r', '\r'), ('e', '\x1B'), (' ', ' '), ('"', '"'), ('/', '/'),
    ('\\', '\\'), ('N', '\u0085'), ('_', '\u00A0'), ('L', '\u2028'), ('P', '\u2029')]

/-- The letters behind a backslash that a code point follows, with the number of its digits. -/
def codeLengths : List (Char × Nat) := [('x', 2), ('u', 4), ('U', 8)]

/-- The character that is written behind a backslash, and in how many characters. -/
def escaped? : List Char → Option (Char × Nat)
  | [] => none
  | c :: rest =>
    match codeLengths.lookup c with
    | some count =>
      let ds := rest.take count
      if ds.length = count then (Text.hexChar? ds).map (·, count + 1) else none
    | none => (escapes.lookup c).map (·, 1)

/-- The characters of text in quotes up to the next blank, line end or closing quote, and the place
    there; whether a backslash joined the next line. The first argument bounds their number. -/
def quotedWord? (quote : Char) : Nat → List Char → Place → Option (List Char × Place × Bool)
  | 0, _, _ => none
  | fuel + 1, out, p =>
    match p.rest with
    | [] => some (out, p, false)
    | c :: rest =>
      if isBlank c || isBreak c then some (out, p, false)
      else if c = quote then
        if quote = '\'' ∧ rest.head? = some '\'' then quotedWord? quote fuel (c :: out) (p.skip 2)
        else some (out, p, false)
      else if c = '\\' ∧ quote = '"' then
        if rest.head?.any isBreak then some (out, (p.skip 1).skipBreak, true)
        else do
          let (d, count) ← escaped? rest
          quotedWord? quote fuel (d :: out) (p.skip (count + 1))
      else quotedWord? quote fuel (c :: out) (p.skip 1)

/-- What stands between words of text in quotes: blanks up to the first line end, the number of line
    ends, and the place behind. No tab may stand before the column `indent` of a later line. The
    first argument bounds the number of steps. -/
def quotedGap? (indent : Int) (joined : Bool) :
    Nat → List Char → Nat → Place → Option (List Char × Nat × Place)
  | 0, _, _, _ => none
  | fuel + 1, blanks, count, p =>
    match p.next? with
    | some c =>
      if isBreak c then quotedGap? indent joined fuel blanks (count + 1) p.skipBreak
      else if !isBlank c then some (blanks, count, p)
      else if count = 0 && !joined then
        quotedGap? indent joined fuel (blanks ++ [c]) count (p.skipBlanks 1)
      else if c = '\t' ∧ p.col < indent then none
      else quotedGap? indent joined fuel blanks count (p.skipBlanks 1)
    | none => some (blanks, count, p)

/-- Text up to its closing quote, and the place behind that; `out` holds what is already read. The
    first argument bounds the number of words. -/
def readQuoted? (quote : Char) (indent : Int) :
    Nat → List Char → Place → Option (List Char × Place)
  | 0, _, _ => none
  | fuel + 1, out, p => do
    if p.atAnyMarker || p.next?.isNone || p.col < indent then none
    let (word, p, joined) ← quotedWord? quote (p.rest.length + 1) [] p
    let out := out ++ word.reverse
    if p.next? = some quote then return (out, p.skip 1)
    let (blanks, count, p) ← quotedGap? indent joined (p.rest.length + 1) [] 0 p
    let gap := if joined then breaks count else if count = 0 then blanks else folded count
    readQuoted? quote indent fuel (out ++ gap) p

/-! ## Blocks of lines -/

/-- What becomes of the line ends at the end of a block of lines. -/
inductive Ending where
  /-- One stays. -/
  | clip
  /-- None stays. -/
  | strip
  /-- All stay. -/
  | keep
  deriving Repr, DecidableEq

/-- The indentation behind the sign of a block of lines, if it is given; never zero. -/
def indentSign? (p : Place) : Option (Option Nat × Place) :=
  match p.next? with
  | some c =>
    if c = '0' then none
    else if c.isDigit then some (some (c.toNat - 48), p.skip 1)
    else some (none, p)
  | none => some (none, p)

/-- The ending behind the sign of a block of lines, if it is given. -/
def endingSign (p : Place) : Option Ending × Place :=
  match p.next? with
  | some '+' => (some .keep, p.skip 1)
  | some '-' => (some .strip, p.skip 1)
  | _ => (none, p)

/-- The ending and the indentation that the first line of a block gives, in either order. -/
def blockSigns? (p : Place) : Option (Ending × Option Nat × Place) := do
  match endingSign p with
  | (some ending, p) =>
    let (indent?, p) ← indentSign? p
    return (ending, indent?, p)
  | (none, p) =>
    let (indent?, p) ← indentSign? p
    let (ending?, p) := if indent?.isSome then endingSign p else (none, p)
    return (ending?.getD .clip, indent?, p)

/-- The place behind empty lines and the spaces before the column `indent`, and the number of those
    lines. The first argument bounds it. -/
def skipIndent (indent : Nat) : Nat → Nat → Place → Nat × Place
  | 0, count, p => (count, p)
  | fuel + 1, count, p =>
    let p := p.skipBlanks ((p.rest.takeWhile (· = ' ')).take (indent - p.col)).length
    if p.next?.any isBreak then skipIndent indent fuel (count + 1) p.skipBreak else (count, p)

/-- The place behind empty lines and all spaces before the first line that is not, the number of
    those lines, and the greatest column reached. The first argument bounds it. -/
def findIndent : Nat → Nat → Nat → Place → Nat × Nat × Place
  | 0, widest, count, p => (widest, count, p)
  | fuel + 1, widest, count, p =>
    let p := p.skipBlanks (p.rest.takeWhile (· = ' ')).length
    let widest := max widest p.col
    if p.next?.any isBreak then findIndent fuel widest (count + 1) p.skipBreak
    else (widest, count, p)

/-- The lines of a block at the column `indent`, and the place behind them. `out` holds what is
    already read, `ended` says whether a line end and `empty` how many empty lines follow it, and
    `deeper` whether its last line begins with a blank. Gives also the two numbers of line ends at
    the end. The first argument bounds the number of lines. -/
def blockLines (literal : Bool) (indent : Nat) :
    Nat → List Char → Bool → Nat → Bool → Place → List Char × Nat × Nat × Place
  | 0, out, ended, empty, _, p => (out, ended.toNat, empty, p)
  | fuel + 1, out, ended, empty, deeper, p =>
    if p.col ≠ indent || p.next?.isNone || (indent = 0 && p.atAnyMarker) then
      (out, ended.toNat, empty, p)
    else
      let blank := p.next?.any isBlank
      let gap :=
        if !literal && ended && !deeper && !blank then folded (empty + 1)
        else breaks (ended.toNat + empty)
      let line := p.rest.takeWhile fun c => !isBreak c
      let out := out ++ gap ++ line
      let p := p.skip line.length
      if p.next?.isNone then (out, 0, 0, p)
      else
        let (empty, p) := skipIndent indent (p.rest.length + 1) 0 p.skipBreak
        blockLines literal indent fuel out true empty blank p

/-- A block of lines behind its sign, in a block of the column `outer`, and the place behind it. -/
def readBlock? (literal : Bool) (outer : Int) (start : Place) : Option (List Char × Place) := do
  let (ending, indent?, p) ← blockSigns? start
  let (p, _) ← p.skipGap? true
  if !endsLine p.next? then none
  let p := p.skipBreak
  if p.next? = some '\t' then none
  let (indent, empty, p) := match indent? with
    | some more =>
      let indent := (max outer 0).toNat + more
      let (empty, p) := skipIndent indent (p.rest.length + 1) 0 p
      (indent, empty, p)
    | none =>
      let (widest, empty, p) := findIndent (p.rest.length + 1) 0 0 p
      let indent := max widest (outer + 1).toNat
      (if 0 < outer then max indent 1 else indent, empty, p)
  if p.next?.isNone then
    let text := match ending with
      | .strip => []
      | .clip => breaks 1
      | .keep => breaks (max empty 1)
    return (if p.line = start.line then [] else text, p)
  if p.col < indent ∧ outer < p.col then none
  let (out, last, empty, p) :=
    blockLines literal indent (p.rest.length + 1) [] false empty false p
  let unended := p.next?.isNone && max indent 1 ≤ p.col
  let tail := match ending with
    | .strip => []
    | .clip => breaks (last + unended.toNat)
    | .keep => breaks (last + unended.toNat + empty)
  return (out ++ tail, p)

end Plugboard.Yaml
