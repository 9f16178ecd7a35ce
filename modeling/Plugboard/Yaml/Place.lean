/-!
# Places in YAML text

In YAML the column at which something stands matters, so a text is read from place to place: what is
left of it, and where that begins. Line ends are a line feed, a carriage return, or both.
-/

namespace Plugboard.Yaml

/-- A place in a text. -/
structure Place where
  /-- The characters that follow. -/
  rest : List Char
  /-- How many characters stand before. -/
  index : Nat := 0
  /-- How many lines stand before its own. -/
  line : Nat := 0
  /-- How many characters stand before it on its line. -/
  col : Nat := 0
  /-- Whether those are all blanks. -/
  indented : Bool := true
  deriving Repr, DecidableEq

/-- Whether a character is a space or a tab. -/
def isBlank (c : Char) : Bool := c = ' ' || c = '\t'

/-- Whether a character ends a line. -/
def isBreak (c : Char) : Bool := c = '\n' || c = '\r'

/-- Whether a character parts or encloses items of collections in brackets. -/
def isFlow (c : Char) : Bool := c = ',' || c = '[' || c = ']' || c = '\x7b' || c = '\x7d'

/-- Whether a word ends before what may be a character. -/
def endsWord (c? : Option Char) : Bool := c?.all fun c => isBlank c || isBreak c

/-- Whether a line ends before what may be a character. -/
def endsLine (c? : Option Char) : Bool := c?.all isBreak

namespace Place

/-- The next character. -/
def next? (p : Place) : Option Char := p.rest.head?

/-- The character after the next. -/
def second? (p : Place) : Option Char := p.rest[1]?

/-- The place behind some blanks. -/
def skipBlanks (p : Place) (count : Nat) : Place :=
  { p with rest := p.rest.drop count, index := p.index + count, col := p.col + count }

/-- The place behind some characters that are not all blanks and end no line. -/
def skip (p : Place) (count : Nat) : Place := { p.skipBlanks count with indented := false }

/-- The place behind a line end, if there is one. -/
def skipBreak (p : Place) : Place :=
  let below (rest : List Char) (count : Nat) : Place :=
    { rest, index := p.index + count, line := p.line + 1 }
  match p.rest with
  | '\r' :: '\n' :: rest => below rest 2
  | '\r' :: rest | '\n' :: rest => below rest 1
  | _ => p

/-- The place at the end of the line, behind a comment. -/
def skipLine (p : Place) : Place := p.skip (p.rest.takeWhile fun c => !isBreak c).length

/-- The place behind the blanks and a comment, and the blanks; none where the comment does not stand
    behind a blank. Without `tabs` tabs are no blanks. -/
def skipGap? (p : Place) (tabs : Bool) : Option (Place × List Char) :=
  let blanks := p.rest.takeWhile fun c => c = ' ' || (tabs && c = '\t')
  let q := p.skipBlanks blanks.length
  if q.next? = some '#' then if blanks.isEmpty then none else some (q.skipLine, blanks)
  else some (q, blanks)

/-- Whether three characters that part documents stand here, at the start of a line. -/
def atMarker (p : Place) (mark : List Char) : Bool :=
  p.col = 0 && mark.isPrefixOf p.rest && endsWord p.rest[3]?

/-- Whether documents are parted here. -/
def atAnyMarker (p : Place) : Bool :=
  p.atMarker ['-', '-', '-'] || p.atMarker ['.', '.', '.']

/-- The place of what comes next, behind blanks, line ends and comments. In a block a tab may not
    stand before the column of its `indent`, unless nothing follows it on the line. The first
    argument bounds the number of steps. -/
def toNext? (inBlock : Bool) (indent : Int) : Nat → Place → Option Place
  | 0, _ => none
  | fuel + 1, p =>
    match p.next? with
    | some c =>
      if c = '\t' ∧ inBlock ∧ p.indented ∧ p.col < indent then do
        let (q, _) ← p.skipGap? true
        if endsLine q.next? then toNext? inBlock indent fuel q else none
      else if isBlank c then toNext? inBlock indent fuel (p.skipBlanks 1)
      else if isBreak c then toNext? inBlock indent fuel p.skipBreak
      else if c = '#' then toNext? inBlock indent fuel p.skipLine
      else some p
    | none => some p

end Place

end Plugboard.Yaml
