import Plugboard.Json.Basic
import Plugboard.Keyed
import Plugboard.Text.Blank
import Plugboard.Text.Hex

/-!
# Reading INI

An INI text holds keys with values, in sections under headers in brackets. All values are texts. A
key goes up to a `=` or `:`, its value to the end of the line; white space around both is left out.
Parts of a value in quotes at its start keep theirs and may go over line ends. A comment takes a
line of its own, behind `;` or `#` as its first character.

A line that begins with a space or a tab begins with a key, whatever its first sign is. Where that
key cannot be read it is given up, and reading goes on where it stopped; any other fault is one of
the whole text.

`read?` gives the values before the first header and the sections as fields of one table. Of two
values of a key in a section, and of two sections of one name, the last counts.
-/

namespace Plugboard.Ini

/-- Whether a character ends a line. -/
def isLineEnd (c : Char) : Bool := c = '\n' || c = '\r'

/-- Whether a character at the start of a line says that a key follows. -/
def isIndent (c : Char) : Bool := c = ' ' || c = '\t'

/-- What is left of a text where reading has come to. -/
structure Rest where
  /-- Whether it begins a line. -/
  start : Bool
  /-- Its characters. -/
  chars : List Char

/-- What is left behind white space, which ends before an indented line; `start` says whether the
    characters begin a line. -/
def dropBlank (start : Bool) : List Char → Rest
  | [] => { start, chars := [] }
  | c :: rest =>
    if isLineEnd c && rest.head?.any isIndent then { start := c = '\n', chars := rest }
    else if Text.isBlank c then dropBlank (c = '\n') rest
    else { start, chars := c :: rest }

/-- What is left behind the line ends that a text begins with. -/
def dropLineEnds (start : Bool) : List Char → Rest
  | [] => { start, chars := [] }
  | c :: rest =>
    if isLineEnd c then dropLineEnds (c = '\n') rest else { start, chars := c :: rest }

/-- The character of a code point in four characters: hexadecimal digits, or a plus and three. -/
def charOf? (code : List Char) : Option Char :=
  match code with
  | '+' :: ds => Text.hexChar? ds
  | ds => Text.hexChar? ds

/-- What a character behind a backslash stands for. -/
def unescaped : Char → Char
  | '0' => '\x00'
  | 'a' => '\x07'
  | 'b' => '\x08'
  | 't' => '\t'
  | 'r' => '\r'
  | 'n' => '\n'
  | c => c

/-- Where reading stops at a code of so many characters that is none: at its last one. A backslash
    counts as one with the line end behind it, and stops reading where there is none; `start` says
    whether the characters begin a line. -/
def afterBadCode : Nat → Bool → List Char → Rest
  | _, start, [] => { start, chars := [] }
  | 0, start, cs => { start, chars := cs }
  | count + 1, _, '\\' :: '\n' :: rest =>
    if count = 0 then { start := false, chars := '\n' :: rest } else afterBadCode count true rest
  | _ + 1, _, '\\' :: rest => { start := false, chars := rest }
  | count + 1, start, c :: rest =>
    if count = 0 then { start, chars := c :: rest } else afterBadCode count (c = '\n') rest

/-- The characters before the first that `stop` holds for, and what follows, beginning with it;
    `out` holds those already read, last first. With `toEnd` the end of the text stops them too. A
    backslash gives the character behind it another meaning; a line end behind it is left out.
    Where they cannot be read, what is left where reading stopped. -/
def readUntil (stop : Char → Bool) (toEnd : Bool) (out : List Char) :
    List Char → Except Rest (List Char × List Char)
  | [] => if toEnd then .ok (out.reverse, []) else .error { start := false, chars := [] }
  | '\\' :: [] =>
    if toEnd then .ok (('\\' :: out).reverse, []) else .error { start := false, chars := [] }
  | '\\' :: '\n' :: rest => readUntil stop toEnd out rest
  | '\\' :: 'x' :: code@(a :: b :: c :: d :: rest) =>
    match charOf? [a, b, c, d] with
    | some e => readUntil stop toEnd (e :: out) rest
    | none => .error (afterBadCode 4 false code)
  | '\\' :: 'x' :: code => .error (afterBadCode 4 false code)
  | '\\' :: c :: rest => readUntil stop toEnd (unescaped c :: out) rest
  | c :: rest =>
    if stop c then .ok (out.reverse, c :: rest) else readUntil stop toEnd (c :: out) rest

/-- The value up to the end of the line, after the characters already read; `first` says whether
    there are none yet. The first argument bounds the number of its parts. -/
def readParts? : Nat → Bool → List Char → List Char → Option (List Char × List Char)
  | 0, _, _, _ => none
  | fuel + 1, first, out, cs => do
    match cs with
    | [] => return (out, [])
    | c :: rest =>
      if c = '"' ∨ c = '\'' then
        let (part, rest) ← (readUntil (· = c) false [] rest).toOption
        readParts? fuel false (out ++ part) (rest.drop 1)
      else
        let (part, rest) ← (readUntil isLineEnd true [] cs).toOption
        return (out ++ (if first then Text.trimChars part else Text.trimEnd part), rest)

/-- A value, and what follows it. -/
def readValue? (cs : List Char) : Option (String × List Char) :=
  let cs := cs.dropWhile fun c => Text.isBlank c && !isLineEnd c
  (readParts? (cs.length + 1) true [] cs).map fun (v, rest) => (.ofList v, rest)

/-- A section. -/
structure Part where
  /-- Its name; none for what stands before the first header. -/
  name : Option String := none
  /-- The values of its keys. -/
  values : List (String × Json) := []

/-- A text that is being read. -/
structure Reading where
  /-- The sections before the last one, last first. -/
  done : List Part := []
  /-- The last section. -/
  current : Part := {}
  /-- The key whose value is still to come; empty if there is none. -/
  key : List Char := []

namespace Reading

/-- Begins a section. -/
def openPart (r : Reading) (name : List Char) : Reading :=
  { r with
    done := r.current :: r.done, current := { name := some (.ofList (Text.trimChars name)) } }

/-- Gives the key a value. -/
def setValue (r : Reading) (v : String) : Reading :=
  { r with
    current.values := Keyed.put (.ofList r.key) (.str v) r.current.values, key := [] }

/-- The fields of the table that was read. -/
def fields (r : Reading) : List (String × Json) :=
  (r.current :: r.done).reverse.foldl (fun out part =>
    match part.name with
    | some name => Keyed.put name (.obj part.values) out
    | none => part.values) []

end Reading

/-- Whether a character stands between a key and its value. -/
def isAssign (c : Char) : Bool := c = '=' || c = ':'

/-- Reads what follows what was already read. The first argument bounds the number of steps. -/
def readFrom? : Nat → Reading → Rest → Option Reading
  | 0, _, _ => none
  | fuel + 1, r, { start, chars := cs } =>
    let goOn (r : Reading) (rest : List Char) := readFrom? fuel r (dropBlank false rest)
    match cs with
    | [] => some r
    | c :: rest =>
      if c = ';' ∨ c = '#' then
        if start then
          readFrom? fuel r (dropBlank true ((rest.dropWhile (· ≠ '\n')).drop 1))
        else none
      else if c = '[' then do
        let (name, rest) ← (readUntil (· = ']') false [] rest).toOption
        goOn (r.openPart name) (rest.drop 1)
      else if isAssign c then do
        if r.key.isEmpty then none
        let (v, rest) ← readValue? rest
        goOn (r.setValue v) rest
      else if isIndent c then
        match readUntil isAssign false [] (rest.dropWhile isIndent) with
        | .ok (key, rest) => goOn { r with key := Text.trimChars key } rest
        | .error left => readFrom? fuel r (dropBlank left.start left.chars)
      else do
        let (key, rest) ← (readUntil isAssign false [] cs).toOption
        goOn { r with key := Text.trimChars key } rest

/-- The fields of the table that an INI text spells. -/
def read? (s : String) : Option (List (String × Json)) :=
  let cs := s.toList
  (readFrom? (cs.length + 1) {} (dropLineEnds true cs)).map Reading.fields

end Plugboard.Ini
