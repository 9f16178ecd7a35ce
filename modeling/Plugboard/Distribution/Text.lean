import Plugboard.Distribution.Basic

/-!
# The files of a distribution

Reads the two files that describe a distribution. Headers stand one to a line as `name: value`; a
line that begins with a space or a tab continues the header before it, and the first blank line ends
them. Entry points stand one to a line as `name = value` under a line `[group]`; lines that begin
with `#` or `;` are comments. Lines of any other form are passed over.
-/

namespace Plugboard

namespace Headers

/-- Whether a line continues the header before it. -/
def continues (line : List Char) : Bool :=
  match line with
  | c :: _ => c = ' ' || c = '\t'
  | [] => false

/-- Reads one line after the headers already read, which are given last first. -/
def readLine (read : List (String × String)) (line : List Char) : List (String × String) :=
  if continues line then
    match read with
    | (name, value) :: earlier =>
      (name, value ++ "\n" ++ .ofList (Text.trimChars line)) :: earlier
    -- before the first header there is nothing to continue
    | [] => []
  else match Text.cutChars? ':' line with
    | some (name, value) =>
      (.ofList (Text.trimChars name), .ofList (Text.trimChars value)) :: read
    | none => read

/-- The headers of some lines, up to the first blank one. -/
def ofLines (lines : List (List Char)) : Headers :=
  ⟨((lines.takeWhile fun line => !line.all Text.isBlank).foldl readLine []).reverse⟩

/-- The headers at the start of a text. -/
def ofText (s : String) : Headers := ofLines (Text.lineChars s.toList)

end Headers

namespace EntryPoint

/-- What a line of the entry-point file says. -/
inductive Line where
  /-- Nothing: it is blank, a comment, or of no known form. -/
  | skip
  /-- The entry points that follow belong to a group. -/
  | heading (group : List Char)
  /-- An entry point. -/
  | pair (name value : List Char)
  deriving Repr, DecidableEq

/-- The inside of a line in brackets. -/
def inBrackets? : List Char → Option (List Char)
  | '[' :: rest => if rest.getLast? = some ']' then some rest.dropLast else none
  | _ => none

/-- What a line says, white space at its ends left out. -/
def Line.ofChars (line : List Char) : Line :=
  let cs := Text.trimChars line
  match cs with
  | [] => .skip
  | c :: _ =>
    if c = '#' || c = ';' then .skip
    else match inBrackets? cs with
      | some group => .heading (Text.trimChars group)
      | none =>
        match Text.cutChars? '=' cs with
        | some (name, value) => .pair (Text.trimChars name) (Text.trimChars value)
        | none => .skip

/-- The entry points of some lines, where those before the first heading belong to `group?`. -/
def ofLines (group? : Option (List Char)) : List Line → List EntryPoint
  | [] => []
  | .skip :: rest => ofLines group? rest
  | .heading group :: rest => ofLines (some group) rest
  | .pair name value :: rest =>
    match group? with
    | some group =>
      { name := .ofList name, group := .ofList group, value := .ofList value } ::
        ofLines group? rest
    | none => ofLines group? rest

/-- The entry points of a text. -/
def ofText (s : String) : List EntryPoint :=
  ofLines none ((Text.lineChars s.toList).map Line.ofChars)

end EntryPoint

end Plugboard
