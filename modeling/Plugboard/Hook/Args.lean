import Plugboard.Json.Basic
import Plugboard.Keyed
import Plugboard.Text.Quoted

/-!
# Arguments of a hook call

Arguments are named and typed: a text passed as JSON is no plain text and the other way round. A
handler is given exactly the arguments it declares, which `select` picks out.

`select` looks at nothing but the values of the declared names: `select_congr`.
-/

namespace Plugboard

/-- The value of an argument. -/
inductive ArgValue where
  /-- A JSON value. -/
  | json (v : Json)
  /-- A plain text. -/
  | text (s : String)
  /-- A number of 64 bits. -/
  | word (n : Nat)

/-- The arguments of a hook call: a value for each of some names. -/
structure Args where
  /-- Names and values, each name once. -/
  entries : List (String × ArgValue)

namespace Args

/-- No arguments. -/
def empty : Args := ⟨[]⟩

/-- Gives a name a value, in place of the one it has. -/
def insert (args : Args) (name : String) (value : ArgValue) : Args :=
  ⟨Keyed.put name value args.entries⟩

/-- The arguments of a list of names and values; of values for one name the last counts. -/
def ofList (pairs : List (String × ArgValue)) : Args :=
  pairs.foldl (fun args (name, value) => args.insert name value) empty

/-- The value of a name. -/
def get? (args : Args) (name : String) : Option ArgValue := Keyed.get? name args.entries

/-- Whether a name has a value. -/
def contains (args : Args) (name : String) : Bool := (args.get? name).isSome

/-- The names, in order of their text. -/
def names (args : Args) : List String := Text.sort (Keyed.keys args.entries)

/-- How many names have a value. -/
def size (args : Args) : Nat := args.entries.length

/-- The JSON value of a name, if that is its type. -/
def json? (args : Args) (name : String) : Option Json :=
  match args.get? name with
  | some (.json v) => some v
  | _ => none

/-- The plain text of a name, if that is its type. -/
def text? (args : Args) (name : String) : Option String :=
  match args.get? name with
  | some (.text s) => some s
  | _ => none

/-- The number of a name, if that is its type. -/
def word? (args : Args) (name : String) : Option Nat :=
  match args.get? name with
  | some (.word n) => some n
  | _ => none

/-- The values of the given names, or the first name that has none. -/
def pick (args : Args) : List String → Except String (List (String × ArgValue))
  | [] => .ok []
  | name :: rest =>
    match args.get? name with
    | none => .error name
    | some value => (pick args rest).map ((name, value) :: ·)

/-- The arguments of the given names alone, or the first name that has no value. -/
def select (args : Args) (names : List String) : Except String Args :=
  (args.pick names).map ofList

/-- The arguments as a message shows them: their names. -/
def describe (args : Args) : String :=
  "HookArgs \x7b names: " ++ Text.quoteList args.names ++ " \x7d"

/-- A value that is passed is found. -/
theorem get?_insert_self (args : Args) (name : String) (value : ArgValue) :
    (args.insert name value).get? name = some value :=
  Keyed.get?_put_self name value args.entries

/-- To pass it changes no other argument. -/
theorem get?_insert_of_ne {j name : String} (h : j ≠ name) (args : Args) (value : ArgValue) :
    (args.insert name value).get? j = args.get? j :=
  Keyed.get?_put_of_ne h value args.entries

/-- Two sets of arguments that agree on the declared names are the same to a handler. -/
theorem select_congr {a b : Args} {names : List String}
    (h : ∀ n ∈ names, a.get? n = b.get? n) : a.select names = b.select names := by
  have hp : a.pick names = b.pick names := by
    induction names with
    | nil => rfl
    | cons n rest ih =>
      simp only [pick, h n (by simp)]
      rw [ih fun m hm => h m (by simp [hm])]
  simp [select, hp]

end Args

end Plugboard
