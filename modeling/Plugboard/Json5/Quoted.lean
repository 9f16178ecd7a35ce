import Plugboard.Text.Hex
import Plugboard.Text.Letters

/-!
# Texts and names in JSON5

Text stands in quotes of either kind, and a backslash at the end of a line joins it to the next. A
name is a word of letters, in which a code point may stand behind `\u`. A code point that needs two
of them, as surrogates, is read from both. However it is written, every character of a name is one
that a name may have at its place.
-/

namespace Plugboard.Json5

/-- Whether a character ends a line. -/
def isBreak (c : Char) : Bool := c = '\n' || c = '\r' || c = '\u2028' || c = '\u2029'

/-- The character that the code behind `\u` spells at the start of the characters, with the code of
    its other half if it is one half, and what follows. -/
def readCode? : List Char → Option (Char × List Char)
  | a :: b :: c :: d :: rest => do
    let n ← Text.hexNumber? [a, b, c, d]
    if 0xD800 ≤ n ∧ n < 0xDC00 then
      match rest with
      | '\\' :: 'u' :: e :: f :: g :: h :: rest =>
        let m ← Text.hexNumber? [e, f, g, h]
        if 0xDC00 ≤ m ∧ m < 0xE000 then
          return (← Text.charOfCode? (0x10000 + (n - 0xD800) * 1024 + (m - 0xDC00)), rest)
        else none
      | _ => none
    else return (← Text.charOfCode? n, rest)
  | _ => none

/-- What a character behind a backslash stands for. -/
def unescaped : Char → Char
  | 'b' => '\x08'
  | 'f' => '\x0C'
  | 'n' => '\n'
  | 'r' => '\r'
  | 't' => '\t'
  | 'v' => '\x0B'
  | c => c

/-- The text up to the closing quote, and what follows it; `out` holds the characters read, last
    first. The first argument bounds their number. -/
def readText? (quote : Char) : Nat → List Char → List Char → Option (String × List Char)
  | 0, _, _ => none
  | _ + 1, _, [] => none
  | fuel + 1, out, '\\' :: rest =>
    match rest with
    | '\r' :: '\n' :: rest => readText? quote fuel out rest
    | '0' :: rest =>
      -- more digits would spell another character
      if rest.head?.any Char.isDigit then none else readText? quote fuel ('\x00' :: out) rest
    | 'x' :: a :: b :: rest => do readText? quote fuel ((← Text.hexChar? [a, b]) :: out) rest
    | 'x' :: _ => none
    | 'u' :: rest => do
      let (c, rest) ← readCode? rest
      readText? quote fuel (c :: out) rest
    | c :: rest =>
      if isBreak c then readText? quote fuel out rest
      else if c.isDigit then none
      else readText? quote fuel (unescaped c :: out) rest
    | [] => none
  | fuel + 1, out, c :: rest =>
    if c = quote then some (.ofList out.reverse, rest)
    else if c = '\n' || c = '\r' then none
    else readText? quote fuel (c :: out) rest

/-- Whether a name may go on with a character; `first` says whether it would be the first. -/
def isNameChar (first : Bool) (c : Char) : Bool :=
  Text.isLetter c || c = '$' || c = '_' ||
    (!first && (Text.isWordMark c || c = '\u200C' || c = '\u200D'))

/-- The characters of a name, and what follows it; `out` holds those already read, last first. The
    first argument bounds their number. -/
def readName? : Nat → List Char → List Char → Option (String × List Char)
  | 0, _, _ => none
  | fuel + 1, out, cs =>
    match cs with
    | '\\' :: 'u' :: rest => do
      let (c, rest) ← readCode? rest
      if isNameChar out.isEmpty c then readName? fuel (c :: out) rest else none
    | c :: rest =>
      if isNameChar out.isEmpty c then readName? fuel (c :: out) rest
      else if out.isEmpty then none
      else some (.ofList out.reverse, cs)
    | [] => if out.isEmpty then none else some (.ofList out.reverse, [])

end Plugboard.Json5
