import Plugboard.Text.Letters

/-!
# Words of RON

What parts the values of a RON text, white space and comments, and the words that stand among them.
A name is an identifier; behind `r#` it may also hold points and signs. No name begins where a text
does, such as at `b"` or `r#"`.
-/

namespace Plugboard.Ron

/-! ## White space and comments -/

/-- Whether a character is white space between the parts of a text. -/
def isSpace (c : Char) : Bool :=
  ('\t' ≤ c && c ≤ '\r') || c = ' ' || c = '\u0085' || c = '\u200E' || c = '\u200F' ||
    c = '\u2028' || c = '\u2029'

/-- What follows the end of a comment that may hold others, if it has one; `depth` tells how many
    are open besides it. -/
def commentEnd? (depth : Nat) : List Char → Option (List Char)
  | '*' :: '/' :: rest => if depth = 0 then some rest else commentEnd? (depth - 1) rest
  | '/' :: '*' :: rest => commentEnd? (depth + 1) rest
  | _ :: rest => commentEnd? depth rest
  | [] => none

/-- Characters without the white space and comments at their start. The first argument bounds their
    number. -/
def dropSpace : Nat → List Char → List Char
  | 0, cs => cs
  | fuel + 1, cs =>
    match cs with
    | '/' :: '/' :: rest => dropSpace fuel (rest.dropWhile (· ≠ '\n'))
    | '/' :: '*' :: rest =>
      match commentEnd? 0 rest with
      | some rest => dropSpace fuel rest
      | none => cs
    | c :: rest => if isSpace c then dropSpace fuel rest else cs
    | [] => []

/-- Characters without the white space and comments at their start. -/
def skip (cs : List Char) : List Char := dropSpace cs.length cs

/-- What follows some tokens, with white space around them. -/
def after? : List String → List Char → Option (List Char)
  | [], cs => some (skip cs)
  | t :: ts, cs =>
    let cs := skip cs
    if t.toList.isPrefixOf cs then after? ts (cs.drop t.toList.length) else none

/-! ## Names -/

/-- Whether a name may begin with a character. -/
def beginsName (c : Char) : Bool := Text.beginsIdentifier c || c = '_'

/-- The word at the start of the characters, which may be empty, and what follows it. -/
def takeWord (cs : List Char) : List Char × List Char :=
  if cs.head?.any beginsName then
    let word := cs.takeWhile Text.continuesIdentifier
    (word, cs.drop word.length)
  else ([], cs)

/-- What texts begin with that begin like names. -/
def textStarts : List String := ["b\"", "b'", "br\"", "br#", "r\"", "r#\"", "r##"]

/-- A name, and what follows it. -/
def readName? (cs : List Char) : Option (List Char × List Char) :=
  if textStarts.any fun s => s.toList.isPrefixOf cs then none
  else
    let (name, rest) := match cs with
      | 'r' :: '#' :: rest =>
        let name := rest.takeWhile fun c =>
          Text.continuesIdentifier c || c = '.' || c = '+' || c = '-'
        (name, rest.drop name.length)
      | _ => takeWord cs
    if name.isEmpty then none else some (name, rest)

/-- Whether a record with names follows: a name with a colon behind it. -/
def isNamed (cs : List Char) : Bool :=
  match readName? (skip cs) with
  | some (_, rest) => (skip rest).head? = some ':'
  | none => false

end Plugboard.Ron
