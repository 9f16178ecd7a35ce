import Plugboard.Yaml.Lexer.Sign
import Plugboard.Yaml.Scalar
import Plugboard.Yaml.Tag

/-!
# The tokens of a YAML text

`tokens?` cuts a text into tokens, unless something in it cannot be one.
-/

namespace Plugboard.Yaml

namespace Lexer

/-! ## Names and tags -/

/-- Whether a character may stand in the name of an anchor. -/
def isNameChar (c : Char) : Bool := !isBlank c && !isBreak c && !isFlow c && c ≠ '\uFEFF'

/-- An anchor or an alias. -/
def name? (x : Lexer) (make : String → Token) : Option Lexer :=
  let x := { x.markKey with keyAllowed := false }
  let name := (x.place.rest.drop 1).takeWhile isNameChar
  if name.isEmpty then none
  else some ({ x with place := x.place.skip (name.length + 1) }.push (make (.ofList name)))

/-- A tag. -/
def tag? (x : Lexer) : Option Lexer := do
  let x := { x.markKey with keyAllowed := false }
  let (handle, suffix, place) ← readTag? x.place
  if endsWord place.next? ∨ (0 < x.depth ∧ place.next?.any isFlow) then
    return { x with place }.push (.tag (.ofList handle) (.ofList suffix))
  else none

/-! ## Directives -/

/-- A directive. -/
def directive? (x : Lexer) : Option Lexer := do
  let x ← (x.closeBlocks (-1)).dropKey?
  let name := (x.place.rest.drop 1).takeWhile isHandleChar
  let p := x.place.skip (name.length + 1)
  if name.isEmpty || !endsWord p.next? then none
  let (t, p) ← directiveBody? name p
  let (p, _) ← p.skipGap? true
  if !endsLine p.next? then none
  return { x with place := p.skipBreak, keyAllowed := false }.push t

/-- What parts documents. -/
def marker? (x : Lexer) (t : Token) : Option Lexer := do
  let x ← (x.closeBlocks (-1)).dropKey?
  return { x with keyAllowed := false, place := x.place.skip 3 }.push t

/-! ## Texts -/

/-- Plain text. -/
def plain? (x : Lexer) : Option Lexer := do
  let x := { x.markKey with keyAllowed := false }
  let (indent, outer) := closePlaces x.indent x.outer
  let x := { x with indent, outer }
  if 0 < x.depth ∧ x.place.col < indent + 1 then none
  let (s, place) ←
    readPlain? (0 < x.depth) (indent + 1) (x.place.rest.length + 1) [] [] x.place
  return { x with place, keyAllowed := place.indented }.push (.text true (.ofList s))

/-- Text in quotes. -/
def quoted? (x : Lexer) (quote : Char) : Option Lexer := do
  let x := { x.markKey with keyAllowed := false }
  let p := x.place.skip 1
  let (s, p) ← readQuoted? quote x.indent (p.rest.length + 1) [] p
  let (p, _) ← p.skipGap? true
  let mayFollow := match p.next? with
    | none => true
    | some c => isBreak c || (if 0 < x.depth then c = ',' || c = '\x7d' || c = ']' || c = ':'
        else c = ':' && p.line = x.place.line)
  if !mayFollow then none
  let q ← p.toNext? (!x.outer.isEmpty) x.indent (p.rest.length + 1)
  let keyAllowed := p.line < q.line && x.depth = 0
  return { x with place := q, colonAt := q.index, keyAllowed }.push (.text false (.ofList s))

/-- A block of lines. -/
def block? (x : Lexer) (literal : Bool) : Option Lexer := do
  let x := { x.markKey with keyAllowed := true }
  let (indent, outer) := closePlaces x.indent x.outer
  let (s, place) ← readBlock? literal indent (x.place.skip 1)
  return { x with indent, outer, place }.push (.text false (.ofList s))

/-! ## The whole text -/

/-- The token that begins with a character. -/
def token? (x : Lexer) (c : Char) : Option Lexer :=
  let next? := x.place.second?
  let inFlow := 0 < x.depth
  match c with
  | '[' => x.openFlow? .flowListStart
  | '\x7b' => x.openFlow? .flowTableStart
  | ']' => x.closeFlow? .flowListEnd
  | '\x7d' => x.closeFlow? .flowTableEnd
  | ',' => x.comma?
  | '*' => x.name? .alias
  | '&' => x.name? .anchor
  | '!' => x.tag?
  | '\'' | '"' => x.quoted? c
  | '%' | '@' | '\u0060' => none
  | '-' => if endsWord next? then x.item? else x.plain?
  | '?' => if endsWord next? then x.key? else x.plain?
  | ':' =>
    if endsWord next? || (inFlow && (next?.any isFlow || x.place.index = x.colonAt)) then x.value?
    else x.plain?
  | '|' => if inFlow then x.plain? else x.block? true
  | '>' => if inFlow then x.plain? else x.block? false
  | _ => x.plain?

/-- Finds the next token; none at the end of the text. -/
def step? (x : Lexer) : Option (Option Lexer) := do
  let place ←
    x.place.toNext? (!x.outer.isEmpty) x.indent (x.place.rest.length + 1)
  let keyAllowed := x.keyAllowed || (x.place.line < place.line && x.depth = 0)
  let x ← { x with place, keyAllowed }.dropOldKeys?
  let x := x.closeBlocks place.col
  match place.next? with
  | none => if x.keys.any fun k => k.possible && k.required then none else some none
  | some c =>
    if place.col = 0 ∧ c = '%' then return some (← x.directive?)
    else if place.atMarker ['-', '-', '-'] then return some (← x.marker? .documentStart)
    else if place.atMarker ['.', '.', '.'] then
      let x ← (← x.marker? .documentEnd).afterGap?
      if endsLine x.place.next? then return some x else none
    -- nothing may stand before the column of the block, not even a closing bracket
    else if (place.col : Int) < x.indent then none
    else return some (← x.token? c)

/-- Finds all tokens. The first argument bounds their number. -/
def run? : Nat → Lexer → Option Lexer
  | 0, _ => none
  | fuel + 1, x => do
    match ← x.step? with
    | none => return x.closeBlocks (-1)
    | some x => run? fuel x

end Lexer

/-- The tokens of a text, which ends at its first NUL. -/
def tokens? (s : String) : Option (List Token) :=
  let cs := s.toList.takeWhile (· ≠ '\x00')
  (Lexer.run? (cs.length + 1) { place := { rest := cs } }).map (·.tokens.toList)

end Plugboard.Yaml
