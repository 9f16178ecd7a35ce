import Plugboard.Ron.Word
import Plugboard.Text.Hex

/-!
# Texts in RON

A text, a string of octets behind `b` and a character stand in quotes, where a backslash gives what
follows it another meaning: it spells a character, an octet in two digits, or joins the next line. A
text or string of octets behind `r` stands as it is.

In a text, octets that are no character of their own are joined to one: `"\xC3\xA9"` is `"é"`.
-/

namespace Plugboard.Ron

/-- A part of what stands in quotes. -/
inductive Piece where
  /-- A character as it stands, or a letter behind a backslash. -/
  | char (c : Char)
  /-- A character spelled by its code point. -/
  | code (c : Char)
  /-- An octet spelled by two digits. -/
  | octet (n : UInt8)
  /-- A line end behind a backslash, with the white space that follows. -/
  | joint
  deriving Repr, DecidableEq

/-- What a letter behind a backslash stands for. -/
def letters : List (Char × Char) :=
  [('\'', '\''), ('"', '"'), ('\\', '\\'), ('n', '\n'), ('r', '\r'), ('t', '\t'), ('0', '\x00')]

/-- The part that is written behind a backslash, and what follows it. -/
def escaped? : List Char → Option (Piece × List Char)
  | 'x' :: a :: b :: rest => do return (.octet (← Text.hexNumber? [a, b]).toUInt8, rest)
  | 'u' :: '\x7b' :: rest => do
    let ds := rest.takeWhile (· ≠ '\x7d')
    if ds.isEmpty ∨ 6 < ds.length then none
    let '\x7d' :: rest := rest.drop ds.length | none
    return (.code (← Text.hexChar? ds), rest)
  | '\n' :: rest => some (.joint, rest.dropWhile isSpace)
  | c :: rest => (letters.lookup c).map (.char ·, rest)
  | [] => none

/-- The parts up to the closing quote, and what follows it; `out` holds those read, last first. The
    first argument bounds their number. -/
def readPieces? : Nat → List Piece → List Char → Option (List Piece × List Char)
  | 0, _, _ => none
  | fuel + 1, out, cs => do
    match cs with
    | '"' :: rest => return (out.reverse, rest)
    | '\\' :: rest =>
      let (piece, rest) ← escaped? rest
      readPieces? fuel (piece :: out) rest
    | c :: rest => readPieces? fuel (.char c :: out) rest
    | [] => none

/-- The characters up to a quote and some signs, and what follows those. -/
def readRaw? (closing : List Char) (out : List Char) : List Char → Option (List Char × List Char)
  | [] => none
  | c :: rest =>
    if closing.isPrefixOf (c :: rest) then some (out.reverse, (c :: rest).drop closing.length)
    else readRaw? closing (c :: out) rest

/-- The parts that stand in quotes, perhaps behind the sign that they stand as they are. -/
def readQuoted? (cs : List Char) : Option (List Piece × List Char) :=
  match cs with
  | '"' :: rest => readPieces? (rest.length + 1) [] rest
  | 'r' :: rest =>
    let signs := rest.takeWhile (· = '#')
    match rest.drop signs.length with
    | '"' :: rest => (readRaw? ('"' :: signs) [] rest).map fun (cs, rest) => (cs.map .char, rest)
    | _ => none
  | _ => none

/-! ## Texts -/

/-- The character that octets are in UTF-8. -/
def charOfOctets? (octets : List UInt8) : Option Char := do
  let s ← String.fromUTF8? (ByteArray.mk octets.toArray)
  let [c] := s.toList | none
  return c

/-- The characters that parts of a text are, behind those in `out`, last first; `octets` holds those
    of an unfinished character. -/
def charsOf? (out : List Char) (octets : List UInt8) : List Piece → Option (List Char)
  | [] => if octets.isEmpty then some out.reverse else none
  | .octet n :: rest =>
    let octets := octets ++ [n]
    match charOfOctets? octets with
    | some c => charsOf? (c :: out) [] rest
    | none => if octets.length < 4 then charsOf? out octets rest else none
  | .char c :: rest | .code c :: rest =>
    if octets.isEmpty then charsOf? (c :: out) [] rest else none
  | .joint :: rest => if octets.isEmpty then charsOf? out [] rest else none

/-- A text, and what follows it. -/
def readText? (cs : List Char) : Option (String × List Char) := do
  let (pieces, rest) ← readQuoted? cs
  return (.ofList (← charsOf? [] [] pieces), rest)

/-- A character in quotes, and what follows it. -/
def readChar? : List Char → Option (String × List Char)
  | '\'' :: '\\' :: rest => do
    let (piece, rest) ← escaped? rest
    let '\'' :: rest := rest | none
    if piece = .joint then none
    return (.ofList (← charsOf? [] [] [piece]), rest)
  | '\'' :: c :: '\'' :: rest => some (c.toString, rest)
  | _ => none

/-! ## Octets -/

/-- The octets that a part of a string of octets is; a code point is none. -/
def Piece.octets? : Piece → Option (List UInt8)
  | .char c => some c.toString.toUTF8.toList
  | .code _ => none
  | .octet n => some [n]
  | .joint => some []

/-- A string of octets, and what follows it. -/
def readOctets? (cs : List Char) : Option (List UInt8 × List Char) := do
  let 'b' :: cs := cs | none
  let (pieces, rest) ← readQuoted? cs
  return ((← pieces.mapM Piece.octets?).flatten, rest)

/-- An octet in quotes, and what follows it. -/
def readOctet? (cs : List Char) : Option (UInt8 × List Char) := do
  let 'b' :: '\'' :: cs := cs | none
  let (piece, rest) ← match cs with
    | '\\' :: rest => escaped? rest
    | c :: rest => some (.char c, rest)
    | [] => none
  let '\'' :: rest := rest | none
  let [n] ← piece.octets? | none
  return (n, rest)

end Plugboard.Ron
