import Plugboard.Json.Text
import Plugboard.Text.Columns
import Plugboard.Text.Lines

/-!
# Reports

What a command prints: a table of records, a list of named values, or JSON. In a table every cell is
as wide as the widest in its column, and lines are drawn around all of them; a cell may hold several
lines.
-/

namespace Plugboard.Command

/-- The form of a report. -/
inductive Format where
  /-- For people. -/
  | table
  /-- For programs. -/
  | json
  deriving Repr, DecidableEq

namespace Format

/-- The forms by name. -/
def choices : List (String × Format) := [("table", .table), ("json", .json)]

end Format

/-- What a command leaves behind. -/
structure Outcome where
  /-- Its exit code. -/
  code : Nat := 0
  /-- The lines that it prints. -/
  out : List String := []
  /-- The lines that it prints as errors. -/
  err : List String := []
  deriving Repr, DecidableEq

/-- Lines as one text, each with its end. -/
def unlines (lines : List String) : String := String.join (lines.map (· ++ "\n"))

/-- Texts side by side between bars. -/
def barred (bar : String) (cells : List String) : String :=
  bar ++ String.join (cells.map (· ++ bar))

/-- The widths of the columns of a table. -/
def widths : List (List String) → List Nat
  | [] => []
  | row :: rows =>
    let own := row.map fun cell => ((Text.splitAll '\n' cell).map Text.columns).foldl max 0
    match widths rows with
    | [] => own
    | more => List.zipWith max own more

/-- The lines of a row of a table. -/
def rowLines (ws : List Nat) (row : List String) : List String :=
  let cells := row.map (Text.splitAll '\n')
  let height := (cells.map List.length).foldl max 0
  (List.range height).map fun i =>
    barred "|" (List.zipWith (fun w cell => " " ++ Text.padTo w (cell[i]?.getD "") ++ " ") ws cells)

/-- The line between two rows of a table. -/
def ruleLine (ws : List Nat) : String :=
  barred "+" (ws.map fun w => .ofList (List.replicate (w + 2) '-'))

/-- The lines of a table whose first row is its heading. -/
def tableLines (rows : List (List String)) : List String :=
  let ws := widths rows
  ruleLine ws :: rows.flatMap fun row => rowLines ws row ++ [ruleLine ws]

/-- A named value on a line. -/
def pairLine (name value : String) : String :=
  let label := name ++ ":"
  "  " ++ label ++ .ofList (List.replicate (24 - label.length) ' ') ++ " " ++ value

/-- A report on records of one kind: their headings, and for each its cells and its JSON form. -/
def listLines (format : Format) (headings : List String) (records : List (List String × Json)) :
    List String :=
  match format with
  | .table =>
    if records.isEmpty then ["No results found."] else tableLines (headings :: records.map (·.1))
  | .json => [(Json.arr (records.map (·.2))).pretty]

/-- A report on one record, given in JSON form. -/
def itemLines (format : Format) (item : Json) : List String :=
  match format with
  | .table =>
    match item.canonical with
    | .obj fields => fields.map fun (name, v) => pairLine name v.shown
    | v => [v.shown]
  | .json => [item.pretty]

/-- The line that reports a success. -/
def successLine (message : String) : String := "✓ " ++ message

/-- The line that reports a failure. -/
def failureLine (message : String) : String := "✗ " ++ message

end Plugboard.Command
