import Plugboard.Yaml.Place
import Plugboard.Yaml.Token

/-!
# Cutting YAML text into tokens

What is known at a place of a text that is being cut into tokens: the blocks and brackets that are
open, and where keys may have begun. A key is only known as one by the colon behind it, so every
place where a key may begin is remembered, and when the colon comes the tokens of a key are put in
there.

A block begins at the column of its first sign. Where a block may begin but need not, such as behind
a colon, a place for one is made, which lies one column further in.
-/

namespace Plugboard.Yaml

/-- A place where a key may begin. -/
structure KeyStart where
  place : Place := { rest := [] }
  /-- How many tokens stand before it. -/
  number : Nat := 0
  /-- Whether a key may still have begun there. -/
  possible : Bool := false
  /-- Whether nothing but a key can stand there. -/
  required : Bool := false

/-- A text that is being cut into tokens. -/
structure Lexer where
  /-- Where the next token is looked for. -/
  place : Place
  /-- The tokens found. -/
  tokens : Array Token := #[]
  /-- Whether a key may begin here. -/
  keyAllowed : Bool := true
  /-- Where the last key of each open collection in brackets, and of what is around them, may have
      begun; the innermost first. -/
  keys : List KeyStart := [{}]
  /-- The column of the open block. -/
  indent : Int := -1
  /-- The columns of the blocks around it, the innermost first, and whether each began a block, not
      only a place for one. -/
  outer : List (Int × Bool) := []
  /-- How many collections in brackets are open. -/
  depth : Nat := 0
  /-- Where a colon need not be followed by a blank. -/
  colonAt : Nat := 0
  /-- Whether a brace was opened, or the sign of a key stood in brackets, and no table without
      braces has ended since. -/
  inTable : Bool := false
  /-- Whether a table without braces is open. -/
  inPair : Bool := false

namespace Lexer

/-- Adds a token. -/
def push (x : Lexer) (t : Token) : Lexer := { x with tokens := x.tokens.push t }

/-- Puts a token in before others. -/
def insert (x : Lexer) (i : Nat) (t : Token) : Lexer :=
  { x with tokens := x.tokens.insertIdxIfInBounds i t }

/-- The last place where a key may have begun. -/
def lastKey (x : Lexer) : KeyStart := x.keys.headD {}

/-- Changes the last place where a key may have begun. -/
def setLastKey (x : Lexer) (k : KeyStart) : Lexer := { x with keys := k :: x.keys.tail }

/-- Remembers that a key may begin here, if it may. -/
def markKey (x : Lexer) : Lexer :=
  if x.keyAllowed then
    x.setLastKey {
      place := x.place, number := x.tokens.size, possible := true
      required := x.depth = 0 && x.indent = x.place.col && (x.outer.head?.any (·.2)) }
  else x

/-- Gives up the last place where a key may have begun. -/
def dropKey? (x : Lexer) : Option Lexer :=
  let k := x.lastKey
  if k.possible && k.required then none else some (x.setLastKey { k with possible := false })

/-- Gives up the places where a key may have begun that lie too far back: outside of brackets, on an
    earlier line or more than 1024 characters before. -/
def dropOldKeys? (x : Lexer) : Option Lexer := do
  let keys ← x.keys.mapM fun k =>
    if k.possible ∧ x.depth = 0 ∧
        (k.place.line < x.place.line ∨ k.place.index + 1024 < x.place.index) then
      if k.required then none else some { k with possible := false }
    else some k
  return { x with keys }

/-- Ends the places for blocks that no block has begun at. -/
def closePlaces : Int → List (Int × Bool) → Int × List (Int × Bool)
  | _, (column, false) :: rest => closePlaces column rest
  | indent, outer => (indent, outer)

/-- Begins a block at a column, unless one is open there; its token is put in before the token of a
    number, or else at the end. -/
def openBlock (x : Lexer) (column : Nat) (number? : Option Nat) (t : Token) : Lexer :=
  if 0 < x.depth then x
  else
    let x : Lexer := match x.outer with
      | (indent, false) :: outer => if x.indent ≤ column then { x with indent, outer } else x
      | _ => x
    if x.indent < column then
      let x := { x with outer := (x.indent, true) :: x.outer, indent := column }
      match number? with
      | some i => x.insert i t
      | none => x.push t
    else x

/-- Makes place for a block one column further in. -/
def openPlace (x : Lexer) : Lexer :=
  if x.depth = 0 && x.outer.head?.any (·.2) then
    { x with outer := (x.indent, false) :: x.outer, indent := x.indent + 1 }
  else x

/-- Ends the blocks further in than a column. -/
def closeBlocks (column : Int) (x : Lexer) : Lexer :=
  if 0 < x.depth then x else go x.outer x
where
  /-- The same for the blocks around the open one. -/
  go : List (Int × Bool) → Lexer → Lexer
    | [], x => x
    | (indent, began) :: outer, x =>
      if column < x.indent then
        let x := { x with indent, outer }
        go outer (if began then x.push .blockEnd else x)
      else x

/-- Ends the table without braces that may be open in brackets. -/
def closePair (x : Lexer) : Lexer :=
  if x.inPair then { x with inTable := false, inPair := false }.push .flowTableEnd else x

/-- Goes on behind the blanks of the line. -/
def afterGap? (x : Lexer) : Option Lexer := do
  let (place, _) ← x.place.skipGap? true
  return { x with place }

end Lexer

end Plugboard.Yaml
