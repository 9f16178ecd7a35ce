import Plugboard.Json.Basic
import Plugboard.Keyed

/-!
# TOML documents

A document is a tree of tables that grows statement by statement. A key is given a value once, a
header opens a table once, and values in braces or brackets are complete as they stand. Tables that
come about on the way to another can be filled later: those that a header implies by a header of
their own or else by dotted keys, those that a dotted key implies by further dotted keys.
-/

namespace Plugboard.Toml

/-- How a table came about. -/
inductive Origin where
  /-- On the way to the table of a header. -/
  | implied
  /-- By its own header. -/
  | header
  /-- On the way to the value of a dotted key. -/
  | dotted
  deriving Repr, DecidableEq

/-- What stands under a key. -/
inductive Entry where
  /-- A complete value. -/
  | value (v : Json)
  /-- A table. -/
  | table (origin : Origin) (entries : List (String × Entry))
  /-- An array of tables, of which the last can be filled. -/
  | tables (items : List (List (String × Entry)))

/-- Keys and what stands under them. -/
abbrev Table := List (String × Entry)

mutual

/-- The value of an entry. -/
def Entry.toJson : Entry → Json
  | .value v => v
  | .table _ entries => .obj (fieldsOf entries)
  | .tables items => .arr (itemsOf items)

/-- The fields of a table. -/
def fieldsOf : List (String × Entry) → List (String × Json)
  | [] => []
  | (key, entry) :: rest => (key, entry.toJson) :: fieldsOf rest

/-- The items of an array of tables. -/
def itemsOf : List (List (String × Entry)) → List Json
  | [] => []
  | entries :: rest => .obj (fieldsOf entries) :: itemsOf rest

end

namespace Table

/-- Gives a dotted key a value. On its way a dotted key claims the tables that no header has opened,
    so that none can any more. It also passes through the last of an array of tables, but its value
    stands only in a table of its own. -/
def insert (v : Json) : List String → Table → Option Table
  | [], _ => none
  | [key], t => if (Keyed.get? key t).isSome then none else some (t ++ [(key, .value v)])
  | key :: next :: rest, t =>
    match Keyed.get? key t with
    | none => (insert v (next :: rest) []).map fun sub => t ++ [(key, .table .dotted sub)]
    | some (.table .header _) => none
    | some (.table _ sub) =>
      (insert v (next :: rest) sub).map fun sub => Keyed.put key (.table .dotted sub) t
    | some (.tables items) => do
      if rest.isEmpty then none
      let sub ← insert v (next :: rest) (← items.getLast?)
      return Keyed.put key (.tables (items.dropLast ++ [sub])) t
    | some (.value _) => none

/-- Changes the table under a key; of an array of tables the last one. -/
def within (f : Table → Option Table) (key : String) (t : Table) : Option Table :=
  match Keyed.get? key t with
  | none => (f []).map fun sub => t ++ [(key, .table .implied sub)]
  | some (.table origin sub) => (f sub).map fun sub => Keyed.put key (.table origin sub) t
  | some (.tables items) => do
    let sub ← f (← items.getLast?)
    return Keyed.put key (.tables (items.dropLast ++ [sub])) t
  | some (.value _) => none

/-- Changes the table that a path of keys leads to. -/
def inside (f : Table → Option Table) : List String → Table → Option Table
  | [], t => f t
  | key :: rest, t => within (inside f rest) key t

/-- Opens the table of a header. -/
def openTable (key : String) (t : Table) : Option Table :=
  match Keyed.get? key t with
  | none => some (t ++ [(key, .table .header [])])
  | some (.table .implied sub) => some (Keyed.put key (.table .header sub) t)
  | some _ => none

/-- Adds a table to an array of tables. -/
def openItem (key : String) (t : Table) : Option Table :=
  match Keyed.get? key t with
  | none => some (t ++ [(key, .tables [[]])])
  | some (.tables items) => some (Keyed.put key (.tables (items ++ [[]])) t)
  | some _ => none

end Table

/-- A statement of a document. -/
inductive Statement where
  /-- Gives a dotted key a value. -/
  | pair (path : List String) (v : Json)
  /-- Opens a table. -/
  | table (path : List String)
  /-- Adds a table to an array of tables. -/
  | item (path : List String)

/-- A document that is being read: its tables, and the path of the one that is open. -/
structure Document where
  /-- The table of all tables. -/
  root : Table := []
  /-- The path of the table that the last header opened. -/
  current : List String := []

namespace Document

/-- Adds a statement to a document, unless it contradicts what the document says. -/
def add (d : Document) : Statement → Option Document
  | .pair path v => do
    let root ← Table.inside (Table.insert v path) d.current d.root
    return { d with root }
  | .table path => do
    let root ← Table.inside (Table.openTable (← path.getLast?)) path.dropLast d.root
    return { root, current := path }
  | .item path => do
    let root ← Table.inside (Table.openItem (← path.getLast?)) path.dropLast d.root
    return { root, current := path }

/-- The value of a document. -/
def toJson (d : Document) : Json := .obj (fieldsOf d.root)

end Document

end Plugboard.Toml
