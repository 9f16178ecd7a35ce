import Plugboard.Toml.Document
import Plugboard.Toml.Word

/-!
# Reading TOML

A document is a sequence of lines, each of which holds a statement, a comment or nothing. `read?`
gives the value of a document, or nothing where its text is not TOML or its statements contradict
each other. Values stand at most eighty deep in one another, and a key has at most eighty parts.
-/

namespace Plugboard.Toml

/-- Whether a character parts words on a line. -/
def isGap (c : Char) : Bool := c = ' ' || c = '\t'

/-- Characters without the blanks at their start. -/
def dropGap (cs : List Char) : List Char := cs.dropWhile isGap

/-- What follows a line end, or the end of the document. -/
def lineEnd? : List Char → Option (List Char)
  | [] => some []
  | '\n' :: rest => some rest
  | '\r' :: '\n' :: rest => some rest
  | _ => none

/-- What is left of a line: blanks and a comment. Gives what follows its end. -/
def restOfLine? (cs : List Char) : Option (List Char) :=
  match dropGap cs with
  | '#' :: rest => lineEnd? (rest.dropWhile isPlain)
  | rest => lineEnd? rest

/-- Characters without the blanks, line ends and comments at their start; `comment` says whether
    they begin in a comment. -/
def dropBlank? (comment : Bool) : List Char → Option (List Char)
  | [] => some []
  | '\n' :: rest => dropBlank? false rest
  | '\r' :: '\n' :: rest => dropBlank? false rest
  | c :: rest =>
    if comment then if isPlain c then dropBlank? true rest else none
    else if isGap c then dropBlank? false rest
    else if c = '#' then dropBlank? true rest
    else some (c :: rest)

/-- Whether a character may stand in a key without quotes. -/
def isBareKey (c : Char) : Bool := c.isAlphanum || c = '-' || c = '_'

/-- Whether a character may stand in a word. -/
def isWord (c : Char) : Bool := c.isAlphanum || c = '-' || c = '_' || c = '+' || c = '.' || c = ':'

/-- A part of a key, and what follows it. -/
def readKeyPart? (cs : List Char) : Option (String × List Char) :=
  match cs with
  | '"' :: _ | '\'' :: _ => readQuotedLine? cs
  | _ =>
    let name := cs.takeWhile isBareKey
    if name.isEmpty then none else some (.ofList name, cs.dropWhile isBareKey)

/-- How deep values stand in one another at most, and how many parts a key has at most. -/
def depthLimit : Nat := 80

/-- A dotted key of at most so many parts, and what follows it and the blanks behind it. -/
def readParts? : Nat → List Char → Option (List String × List Char)
  | 0, _ => none
  | room + 1, cs => do
    let (part, cs) ← readKeyPart? (dropGap cs)
    match dropGap cs with
    | '.' :: rest =>
      let (more, cs) ← readParts? room rest
      return (part :: more, cs)
    | rest => return ([part], rest)

/-- A dotted key, and what follows it and the blanks behind it. -/
def readKey? (cs : List Char) : Option (List String × List Char) := readParts? depthLimit cs

/-- A word, and what follows it. A date takes in the time of day that follows it behind a space. -/
def readBare? (cs : List Char) : Option (Json × List Char) :=
  let word := cs.takeWhile isWord
  let rest := cs.dropWhile isWord
  match readDate? word, rest with
  | some (_, []), ' ' :: d :: more =>
    if d.isDigit then
      let time := (d :: more).takeWhile isWord
      (readWord? (word ++ ' ' :: time)).map (·, (d :: more).dropWhile isWord)
    else (readWord? word).map (·, rest)
  | _, _ => (readWord? word).map (·, rest)

mutual

/-- A value in which others stand at most `room` deep, and what follows it. The first argument
    bounds the number of steps. -/
def readValueIn? : Nat → Nat → List Char → Option (Json × List Char)
  | 0, _, _ => none
  | fuel + 1, room, cs =>
    match cs, room with
    | '"' :: _, _ | '\'' :: _, _ => (readQuoted? cs).map fun (s, rest) => (.str s, rest)
    | '[' :: rest, room + 1 => readItems? fuel room [] rest
    | '\x7b' :: rest, room + 1 =>
      (readPairs? fuel room [] rest).map fun (t, rest) => (.obj (fieldsOf t), rest)
    | _, _ => readBare? cs

/-- The items of an array up to its closing bracket, after those already read, last first. -/
def readItems? : Nat → Nat → List Json → List Char → Option (Json × List Char)
  | 0, _, _, _ => none
  | fuel + 1, room, out, cs => do
    match ← dropBlank? false cs with
    | ']' :: rest => return (.arr out.reverse, rest)
    | cs =>
      let (v, cs) ← readValueIn? fuel room cs
      match ← dropBlank? false cs with
      | ',' :: rest => readItems? fuel room (v :: out) rest
      | ']' :: rest => return (.arr (v :: out).reverse, rest)
      | _ => none

/-- The table in braces up to its closing brace, after the pairs already read. Lines may end
    anywhere but within a key. -/
def readPairs? : Nat → Nat → Table → List Char → Option (Table × List Char)
  | 0, _, _, _ => none
  | fuel + 1, room, t, cs => do
    match ← dropBlank? false cs with
    | '\x7d' :: rest => return (t, rest)
    | cs =>
      let (path, cs) ← readKey? cs
      let '=' :: cs ← dropBlank? false cs | none
      let (v, cs) ← readValueIn? fuel room (← dropBlank? false cs)
      let t ← Table.insert v path t
      match ← dropBlank? false cs with
      | ',' :: rest => readPairs? fuel room t rest
      | '\x7d' :: rest => return (t, rest)
      | _ => none

end

/-- A value, and what follows it. -/
def readValue? (cs : List Char) : Option (Json × List Char) :=
  readValueIn? (2 * cs.length + 2) depthLimit cs

/-- The statement at the start of a line, and what follows it. -/
def readStatement? (cs : List Char) : Option (Statement × List Char) := do
  match cs with
  | '[' :: '[' :: rest =>
    let (path, cs) ← readKey? rest
    let ']' :: ']' :: cs := cs | none
    return (.item path, cs)
  | '[' :: rest =>
    let (path, cs) ← readKey? rest
    let ']' :: cs := cs | none
    return (.table path, cs)
  | _ =>
    let (path, cs) ← readKey? cs
    let '=' :: cs := cs | none
    let (v, cs) ← readValue? (dropGap cs)
    return (.pair path v, cs)

/-- Reads the lines of a document, after what was already read. The first argument bounds their
    number. -/
def readLines? : Nat → Document → List Char → Option Document
  | 0, _, _ => none
  | _ + 1, d, [] => some d
  | count + 1, d, cs =>
    match restOfLine? cs with
    | some rest => readLines? count d rest
    | none => do
      let (statement, rest) ← readStatement? (dropGap cs)
      readLines? count (← d.add statement) (← restOfLine? rest)

/-- The value of a document. A mark of byte order at its start is no part of it. -/
def read? (s : String) : Option Json :=
  let cs := match s.toList with
    | '\uFEFF' :: rest => rest
    | cs => cs
  (readLines? (cs.length + 2) {} cs).map Document.toJson

end Plugboard.Toml
