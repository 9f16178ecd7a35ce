import Plugboard.Yaml.Lexer.Run
import Plugboard.Yaml.Value

/-!
# Reading YAML

`read?` gives the value of a text with one document. A text without any is an empty table; a text
with several, or one that is not YAML, gives none.

An alias stands for the value of the last anchor of its name.
-/

namespace Plugboard.Yaml

/-- Tokens that are being read. -/
structure Reading where
  /-- The tokens that follow. -/
  rest : List Token
  /-- What handles of tags stand for. -/
  rules : List (String × String) := []
  /-- The numbers of the last anchors by name. -/
  anchors : List (String × Nat) := []
  /-- The values of anchors by number, so far as they are complete. -/
  values : List (Nat × Value) := []
  /-- How many anchors there were. -/
  count : Nat := 0

namespace Reading

/-- Goes on behind the next token. -/
def drop (r : Reading) : Reading := { r with rest := r.rest.tail }

/-- Whether the next token is one of these. -/
def atOne (r : Reading) (ts : List Token) : Bool := r.rest.head?.any ts.contains

/-- The tag of a handle and a suffix; none where the handle is not known. -/
def tag? (r : Reading) (handle suffix : String) : Option Tag :=
  if handle = "!!" then
    some { start := (r.rules.lookup handle).getD "tag:yaml.org,2002:", suffix }
  else match r.rules.lookup handle with
    | some start => some { start, suffix }
    | none =>
      if 2 ≤ handle.length && Text.startsWith "!" handle && Text.endsWith "!" handle then none
      else some { start := handle, suffix }

/-- Notes an anchor, and gives its number. -/
def note (r : Reading) (name : String) : Nat × Reading :=
  let n := r.count + 1
  (n, { r with count := n, anchors := Keyed.put name n r.anchors })

/-- The anchor and the tag before a value, in either order. -/
def properties? (r : Reading) : Option (Option Nat × Option Tag × Reading) :=
  match r.rest with
  | .anchor name :: .tag handle suffix :: _ => do
    let (n, r) := r.note name
    return (some n, some (← r.tag? handle suffix), r.drop.drop)
  | .anchor name :: _ =>
    let (n, r) := r.note name
    some (some n, none, r.drop)
  | .tag handle suffix :: .anchor name :: _ => do
    let (n, r) := r.note name
    return (some n, some (← r.tag? handle suffix), r.drop.drop)
  | .tag handle suffix :: _ => do return (none, some (← r.tag? handle suffix), r.drop)
  | _ => some (none, none, r)

/-- The value of an alias. -/
def aliased? (r : Reading) (name : String) : Option Value := do
  let n ← Keyed.get? name r.anchors
  return (Keyed.get? n r.values).getD .missing

mutual

/-- A value. With `block` it may be a block, with `items` also one whose items stand at the column
    of the block around it. The first argument bounds the number of steps. -/
def node? : Nat → Bool → Bool → Reading → Option (Value × Reading)
  | 0, _, _, _ => none
  | fuel + 1, block, items, r => do
    match r.rest with
    | .alias name :: _ => return (← r.aliased? name, r.drop)
    | _ =>
      let (n?, tag?, r) ← r.properties?
      let (v, r) ← content? fuel block items (n?.isSome || tag?.isSome) tag? r
      match n? with
      | some n => return (v, { r with values := Keyed.put n v r.values })
      | none => return (v, r)

/-- A value behind its anchor and tag. With `mayLack` it may be missing. -/
def content? : Nat → Bool → Bool → Bool → Option Tag → Reading → Option (Value × Reading)
  | 0, _, _, _, _, _ => none
  | fuel + 1, block, items, mayLack, tag?, r =>
    match r.rest with
    | .text plain s :: _ => some (.ofText tag? plain s, r.drop)
    | .flowListStart :: _ => flowItems? fuel true [] r.drop
    | .flowTableStart :: _ => flowPairs? fuel true [] r.drop
    | t :: _ =>
      if t = .item ∧ items then bareItems? fuel [] r
      else if t = .listStart ∧ block then blockItems? fuel [] r.drop
      else if t = .tableStart ∧ block then blockPairs? fuel [] r.drop
      else if mayLack then some (.ofText tag? true "", r)
      else none
    | [] => if mayLack then some (.ofText tag? true "", r) else none

/-- A value, or none at all before one of some tokens. -/
def nodeOr? : Nat → List Token → Bool → Bool → Reading → Option (Value × Reading)
  | 0, _, _, _, _ => none
  | fuel + 1, stops, block, items, r =>
    if r.atOne stops then some (.null, r) else node? fuel block items r

/-- The items of a block, behind those already read, last first. -/
def blockItems? : Nat → List Value → Reading → Option (Value × Reading)
  | 0, _, _ => none
  | fuel + 1, out, r => do
    match r.rest with
    | .blockEnd :: _ => return (.list out.reverse, r.drop)
    | .item :: _ =>
      let (v, r) ← nodeOr? fuel [.item, .blockEnd] true false r.drop
      blockItems? fuel (v :: out) r
    | _ => none

/-- The items at the column of the block around them, behind those already read, last first. -/
def bareItems? : Nat → List Value → Reading → Option (Value × Reading)
  | 0, _, _ => none
  | fuel + 1, out, r => do
    match r.rest with
    | .item :: _ =>
      let (v, r) ← nodeOr? fuel [.item, .key, .value, .blockEnd] true false r.drop
      bareItems? fuel (v :: out) r
    | _ => return (.list out.reverse, r)

/-- The pairs of a block, behind the keys and values already read, last first. -/
def blockPairs? : Nat → List Value → Reading → Option (Value × Reading)
  | 0, _, _ => none
  | fuel + 1, out, r => do
    let stops : List Token := [.key, .value, .blockEnd]
    match r.rest with
    | .blockEnd :: _ => return (← Value.pairUp? .missing [] out.reverse, r.drop)
    | .key :: _ =>
      let (k, r) ← nodeOr? fuel stops true true r.drop
      let (v, r) ← if r.atOne [.value] then nodeOr? fuel stops true true r.drop else some (.null, r)
      blockPairs? fuel (v :: k :: out) r
    | .value :: _ =>
      let (v, r) ← nodeOr? fuel stops true true r.drop
      blockPairs? fuel (v :: .null :: out) r
    | _ => none

/-- The items of a list in brackets, behind those already read, last first; `first` says whether
    there are none. -/
def flowItems? : Nat → Bool → List Value → Reading → Option (Value × Reading)
  | 0, _, _, _ => none
  | fuel + 1, first, out, r => do
    if r.atOne [.flowListEnd] then return (.list out.reverse, r.drop)
    if !first && !r.atOne [.comma] then none
    let r := if first then r else r.drop
    match r.rest with
    | .flowListEnd :: _ => return (.list out.reverse, r.drop)
    | .key :: _ =>
      let (k, r) ← if r.drop.atOne [.value, .comma, .flowListEnd] then some (.null, r.drop.drop)
        else node? fuel false false r.drop
      let (v, r) ← if r.atOne [.value] then nodeOr? fuel [.comma, .flowListEnd] false false r.drop
        else some (.null, r)
      flowItems? fuel false ((← Value.pairUp? .missing [] [k, v]) :: out) r
    | _ =>
      let (v, r) ← node? fuel false false r
      flowItems? fuel false (v :: out) r

/-- The pairs of a table in braces, behind the keys and values already read, last first; `first`
    says whether there are none. -/
def flowPairs? : Nat → Bool → List Value → Reading → Option (Value × Reading)
  | 0, _, _, _ => none
  | fuel + 1, first, out, r => do
    if r.atOne [.flowTableEnd] then return (← Value.pairUp? .missing [] out.reverse, r.drop)
    if !first && !r.atOne [.comma] then none
    let r := if first then r else r.drop
    match r.rest with
    | .flowTableEnd :: _ => return (← Value.pairUp? .missing [] out.reverse, r.drop)
    | t :: _ =>
      let (k, r) ←
        if t = .key then nodeOr? fuel [.value, .comma, .flowTableEnd] false false r.drop
        else nodeOr? fuel [.value] false false r
      -- a value follows only behind a key that is marked as one
      let (v, r) ← if (t = .key || t = .value) && r.atOne [.value] then
          nodeOr? fuel [.comma, .flowTableEnd] false false r.drop
        else some (.null, r)
      flowPairs? fuel false (v :: k :: out) r
    | [] => none

end

/-- Goes on behind ends of documents. -/
def dropEnds (r : Reading) : Reading := { r with rest := r.rest.dropWhile (· = .documentEnd) }

/-- Goes on behind directives. Of the rules for tags the last counts; there is one version at
    most. -/
def directives? : List Token → Bool → List (String × String) →
    Option (List (String × String) × List Token)
  | .version :: rest, versioned, _ => if versioned then none else directives? rest true []
  | .tagRule handle start :: rest, versioned, _ => directives? rest versioned [(handle, start)]
  | rest, _, rules => some (rules, rest)

/-- The value of the only document. -/
def document? (r : Reading) : Option (Value × Reading) := do
  let (rules, rest) ← directives? r.rest false []
  let fuel := 4 * r.rest.length + 4
  match rest with
  | .documentStart :: rest =>
    let r := { r with rules, rest }
    if r.rest.isEmpty ∨ r.atOne [.documentStart, .documentEnd] then return (.null, r)
    else node? fuel true false r
  | _ => if rest.length = r.rest.length then node? fuel true false r else none

end Reading

/-- The value of a text. -/
def read? (s : String) : Option Json := do
  let r := Reading.dropEnds { rest := ← tokens? s }
  if r.rest.isEmpty then return .obj []
  let (v, r) ← r.document?
  if r.dropEnds.rest.isEmpty then v.toJson? else none

end Plugboard.Yaml
