/-!
# Text from bytes that may not be UTF-8

Reads bytes as UTF-8 and never fails: bytes that begin a character but do not complete it are
replaced together by one replacement character, and so is every byte that begins none.

A character is read octet by octet. Between two of them stands an `Unfinished` character: the bits
read so far, how many octets it still needs, and the range that the next one must be in.
-/

namespace Plugboard.Text

/-- A character of which some octets have been read. -/
structure Unfinished where
  /-- The bits read so far. -/
  bits : Nat
  /-- How many octets are missing. -/
  owed : Nat
  /-- The least value of the next octet. -/
  low : Nat := 0x80
  /-- The greatest value of the next octet. -/
  high : Nat := 0xBF
  deriving Repr, DecidableEq

/-- The character that stands for octets that are no character. -/
def replacement : Char := '\uFFFD'

/-- What the first octet of a character begins: the characters it completes, and what is left
    unfinished. -/
def beginChar (octet : Nat) : List Char × Option Unfinished :=
  if octet < 0x80 then ([Char.ofNat octet], none)
  else if octet < 0xC2 then ([replacement], none)
  else if octet < 0xE0 then ([], some { bits := octet - 0xC0, owed := 1 })
  else if octet = 0xE0 then ([], some { bits := 0, owed := 2, low := 0xA0 })
  else if octet = 0xED then ([], some { bits := 0xD, owed := 2, high := 0x9F })
  else if octet < 0xF0 then ([], some { bits := octet - 0xE0, owed := 2 })
  else if octet = 0xF0 then ([], some { bits := 0, owed := 3, low := 0x90 })
  else if octet < 0xF4 then ([], some { bits := octet - 0xF0, owed := 3 })
  else if octet = 0xF4 then ([], some { bits := 4, owed := 3, high := 0x8F })
  else ([replacement], none)

/-- What an octet does to an unfinished character. -/
def continueChar (u : Unfinished) (octet : Nat) : List Char × Option Unfinished :=
  if u.low ≤ octet ∧ octet ≤ u.high then
    let bits := 64 * u.bits + (octet - 0x80)
    if u.owed = 1 then ([Char.ofNat bits], none) else ([], some { bits, owed := u.owed - 1 })
  else
    let (more, next) := beginChar octet
    (replacement :: more, next)

/-- The characters of octets that follow an unfinished character, if there is one. -/
def decodeOctets : Option Unfinished → List UInt8 → List Char
  | none, [] => []
  | some _, [] => [replacement]
  | none, b :: rest =>
    let (out, next) := beginChar b.toNat
    out ++ decodeOctets next rest
  | some u, b :: rest =>
    let (out, next) := continueChar u b.toNat
    out ++ decodeOctets next rest

/-- Octets without the mark that tells their order. -/
def dropOrderMark : List UInt8 → List UInt8
  | 0xEF :: 0xBB :: 0xBF :: rest => rest
  | octets => octets

/-- The text of some bytes, without the mark that tells their order. -/
def ofBytes (contents : ByteArray) : String :=
  .ofList (decodeOctets none (dropOrderMark contents.toList))

end Plugboard.Text
