import Plugboard.Yaml.Lexer.Basic

/-!
# Signs of YAML

What the signs do that open, part and close collections in brackets, and those before the items,
keys and values of blocks.
-/

namespace Plugboard.Yaml.Lexer

/-! ## Collections in brackets -/

/-- An opening bracket or brace. -/
def openFlow? (x : Lexer) (t : Token) : Option Lexer := do
  let x := x.markKey.openPlace
  -- the number of open collections fits an octet
  if x.depth = 255 then none
  let x := { x with
    keys := {} :: x.keys, depth := x.depth + 1, keyAllowed := true, place := x.place.skip 1 }
  let x := { x with inTable := x.inTable || t = Token.flowTableStart }
  return (← x.afterGap?).push t

/-- A closing bracket or brace. -/
def closeFlow? (x : Lexer) (t : Token) : Option Lexer := do
  let x ← x.dropKey?
  let x := if x.depth = 0 then x else { x with depth := x.depth - 1, keys := x.keys.tail }
  let x := { x with keyAllowed := false }.closePair
  let x ← { x with place := x.place.skip 1 }.afterGap?
  let x := if 0 < x.depth then { x with colonAt := x.place.index } else x
  return x.push t

/-- A comma. -/
def comma? (x : Lexer) : Option Lexer := do
  let x ← x.dropKey?
  let x := { x with keyAllowed := true }.closePair
  return (← { x with place := x.place.skip 1 }.afterGap?).push .comma

/-! ## Signs of blocks -/

/-- The sign of an item. -/
def item? (x : Lexer) : Option Lexer := do
  if 0 < x.depth || !x.keyAllowed then none
  let column := x.place.col
  let x := { x with place := x.place.skip 1 }.openBlock column none .listStart
  let (place, blanks) ← x.place.skipGap? true
  if blanks.contains '\t' ∧ place.next? = some '-' ∧ endsWord place.second? then none
  let x := { x with place }
  let x := if place.next?.any (fun c => isBreak c || isFlow c) then x.openPlace else x
  let x ← x.dropKey?
  return { x with keyAllowed := true }.push .item

/-- The place behind spaces, line ends and comments; none where there is neither a space nor a line
    end. The first argument bounds their number. -/
def spaces? : Nat → Bool → Place → Option Place
  | 0, _, _ => none
  | fuel + 1, found, p =>
    match p.next? with
    | some c =>
      if c = ' ' then spaces? fuel true (p.skipBlanks 1)
      else if isBreak c then spaces? fuel true p.skipBreak
      else if c = '#' then spaces? fuel found p.skipLine
      else if found then some p else none
    | none => if found then some p else none

/-- The sign of a key. -/
def key? (x : Lexer) : Option Lexer := do
  let column := x.place.col
  let x ← if 0 < x.depth then some { x with inTable := true }
    else if x.keyAllowed then some (x.openBlock column none .tableStart)
    else none
  let x ← x.dropKey?
  let p := x.place.skip 1
  let place ← spaces? (p.rest.length + 1) false p
  if place.next? = some '\t' then none
  return { x with place, keyAllowed := x.depth = 0 }.push .key

/-- The sign of a value. -/
def value? (x : Lexer) : Option Lexer := do
  let k := x.lastKey
  let start := x.place
  let inPair := 0 < x.depth && !x.inTable
  let x := { x with inPair }
  let p := start.skip 1
  let place ← if p.next? = some '\t' then do
      let (q, blanks) ← p.skipGap? true
      if !blanks.contains ' ' && q.next?.any (fun c => c = '-' || c = '_' || c.isAlphanum) then none
      else some q
    else some p
  let x := { x with place }
  if k.possible then
    let x := x.insert k.number .key
    if inPair && k.place.line < start.line then none
    let x := if inPair then x.insert k.number .flowTableStart else x
    let x := (x.openBlock k.place.col (some k.number) .tableStart).openPlace
    let x := x.setLastKey { k with possible := false }
    return { x with keyAllowed := false }.push .value
  else
    let x := if inPair then x.push .flowTableStart else x
    if x.depth = 0 && !x.keyAllowed then none
    let x := (x.openBlock start.col none .tableStart).openPlace
    return { x with keyAllowed := x.depth = 0 }.push .value

end Plugboard.Yaml.Lexer
