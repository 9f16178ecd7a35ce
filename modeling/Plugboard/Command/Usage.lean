import Plugboard.Keyed
import Plugboard.Text.Lines

/-!
# Command lines

A command has options and either subcommands or positional arguments. `read` takes a command line
apart: it gives the subcommands that were chosen and the values of options and arguments, or says
why the command line does not fit the command.

A value that follows its option as a word of its own is checked late, when the next option or
argument comes or the command line ends, and the words of a subcommand are read before that.
-/

namespace Plugboard.Command

/-- What an option does. -/
inductive Effect where
  /-- It takes a value; where choices are given, one of them. -/
  | value (choices : Option (List String))
  /-- It is set. -/
  | flag
  /-- It asks for help. -/
  | help
  /-- It asks for the version. -/
  | version
  deriving Repr, DecidableEq

/-- An option of a command. -/
structure Switch where
  /-- Its long name. -/
  long : String
  /-- Its short name, if it has one. -/
  short? : Option Char := none
  /-- What it does. -/
  effect : Effect
  deriving Repr, DecidableEq

/-- What a command takes. -/
inductive Shape where
  /-- A command with its options, positional arguments and subcommands. -/
  | mk (switches : List Switch) (arguments : List String) (commands : List (String × Shape))

namespace Shape

/-- The options of a command. -/
def switches : Shape → List Switch
  | .mk switches _ _ => switches

/-- The positional arguments of a command. -/
def arguments : Shape → List String
  | .mk _ arguments _ => arguments

/-- The subcommands of a command. -/
def commands : Shape → List (String × Shape)
  | .mk _ _ commands => commands

/-- The name of the subcommand that gives help on the others. -/
def helpName : String := "help"

/-- Whether a word names a subcommand. -/
def isCommand (c : Shape) (word : String) : Bool :=
  !c.commands.isEmpty && (word = helpName || (c.commands.lookup word).isSome)

end Shape

/-- Why a command line does not lead to a command that can be run. -/
inductive UsageError where
  /-- Help is asked for. -/
  | help
  /-- The version is asked for. -/
  | version
  /-- Nothing is given where a subcommand is needed. -/
  | nothingGiven
  /-- Options are given, but not the subcommand that is needed. -/
  | missingCommand
  /-- A positional argument is missing. -/
  | missingArgument
  /-- There is no such option, or no place for an argument. -/
  | unknownArgument
  /-- There is no such subcommand. -/
  | unknownCommand
  /-- A value is missing, or none of those there are. -/
  | badValue
  /-- A value is attached to an option that takes none. -/
  | surplusValue
  /-- An option is given twice. -/
  | repeated
  deriving Repr, DecidableEq

/-- The exit code for a command line that is not run. -/
def UsageError.exitCode : UsageError → Nat
  | .help | .version => 0
  | _ => 2

/-- What a command line says. -/
structure Invocation where
  /-- The subcommands that were chosen, the outermost first. -/
  path : List String := []
  /-- The values of options and positional arguments. -/
  values : List (String × String) := []
  /-- The options that are set. -/
  flags : List String := []
  deriving Repr, DecidableEq

/-- How far the words for one command have been read. -/
structure Progress where
  /-- The values that have been checked. -/
  values : List (String × String) := []
  /-- The options that are set. -/
  flags : List String := []
  /-- An option whose value has not been checked, with the value if it has come. -/
  pending : Option (Switch × Option String) := none
  /-- How many positional arguments have come. -/
  arguments : Nat := 0
  /-- Whether `--` has come, after which there are no options. -/
  trailing : Bool := false
  deriving Repr, DecidableEq

namespace Progress

/-- Whether an option waits for its value. -/
def awaits (p : Progress) : Bool :=
  match p.pending with
  | some (_, none) => true
  | _ => false

/-- Gives an option a value, if it has none yet and may have this one. -/
def assign (p : Progress) (s : Switch) (v : String) : Except UsageError Progress :=
  if (Keyed.get? s.long p.values).isSome then .error .repeated
  else match s.effect with
    | .value (some choices) =>
      if choices.contains v then .ok { p with values := p.values ++ [(s.long, v)] }
      else .error .badValue
    | _ => .ok { p with values := p.values ++ [(s.long, v)] }

/-- Checks the value that has not been checked. -/
def settle (p : Progress) : Except UsageError Progress :=
  match p.pending with
  | none => .ok p
  | some (_, none) => .error .badValue
  | some (s, some v) => { p with pending := none }.assign s v

/-- Takes an option that needs no value. -/
def set (p : Progress) (s : Switch) : Except UsageError Progress := do
  let p ← p.settle
  match s.effect with
  | .help => .error .help
  | .version => .error .version
  | _ =>
    if p.flags.contains s.long then .error .repeated
    else return { p with flags := p.flags ++ [s.long] }

/-- Takes an option with the value attached to it, or one that waits for its value. -/
def take (p : Progress) (s : Switch) (attached : Option String) : Except UsageError Progress := do
  let p ← p.settle
  match attached with
  | some v => p.assign s v
  | none => return { p with pending := some (s, none) }

/-- Takes a long option, with the value behind its equals sign if there is one. -/
def takeLong (p : Progress) (c : Shape) (name : String) (attached : Option String) :
    Except UsageError Progress :=
  match c.switches.find? (·.long = name) with
  | none => .error .unknownArgument
  | some s =>
    match s.effect with
    | .value _ => p.take s attached
    | _ => if attached.isSome then .error .surplusValue else p.set s

/-- Takes short options that stand together; the rest of the word is the value of the first that
    takes one. -/
def takeShort (p : Progress) (c : Shape) : List Char → Except UsageError Progress
  | [] => .ok p
  | letter :: rest =>
    match c.switches.find? (·.short? = some letter) with
    | none => .error .unknownArgument
    | some s =>
      match s.effect with
      | .value _ =>
        match rest with
        | [] => p.take s none
        | '=' :: v => p.take s (some (.ofList v))
        | v => p.take s (some (.ofList v))
      | _ => do takeShort (← p.set s) c rest

/-- Takes a positional argument. -/
def takeArgument (p : Progress) (c : Shape) (word : String) : Except UsageError Progress :=
  match c.arguments[p.arguments]? with
  | some name => do
    let p ← p.settle
    return { p with values := p.values ++ [(name, word)], arguments := p.arguments + 1 }
  | none =>
    if p.trailing && c.isCommand word then .error .unknownArgument
    else if c.commands.isEmpty then .error .unknownArgument
    else .error .unknownCommand

/-- Takes a word that names no subcommand. -/
def takeWord (p : Progress) (c : Shape) (word : String) : Except UsageError Progress :=
  if p.trailing then p.takeArgument c word
  else match word.toList with
    | ['-', '-'] => .ok { p with trailing := true }
    | '-' :: '-' :: long =>
      match Text.cutChars? '=' long with
      | some (name, v) => p.takeLong c (.ofList name) (some (.ofList v))
      | none => p.takeLong c (.ofList long) none
    | '-' :: letter :: more => p.takeShort c (letter :: more)
    -- a hyphen alone is a word like any other
    | _ =>
      match p.pending with
      | some (s, none) => .ok { p with pending := some (s, some word) }
      | _ => p.takeArgument c word

/-- The end of the words for a command; `chosen` is what its subcommand was given. -/
def finish (p : Progress) (c : Shape) (chosen : Option Invocation) :
    Except UsageError Invocation := do
  let p ← p.settle
  match chosen with
  | some inner =>
    return { inner with values := p.values ++ inner.values, flags := p.flags ++ inner.flags }
  | none =>
    if !c.commands.isEmpty then
      if p.values.isEmpty && p.flags.isEmpty then .error .nothingGiven else .error .missingCommand
    else if p.arguments < c.arguments.length then .error .missingArgument
    else return { values := p.values, flags := p.flags }

end Progress

/-- What asking for help on a subcommand leads to. -/
def helpOn (c : Shape) : List String → UsageError
  | [] => .help
  | word :: rest =>
    match c.commands.lookup word with
    | some sub => helpOn sub rest
    | none =>
      if c.isCommand word && rest.isEmpty then .help else .unknownCommand

/-- Reads the words that follow what has been read for a command. -/
def readFrom (c : Shape) (p : Progress) : List String → Except UsageError Invocation
  | [] => p.finish c none
  | word :: rest =>
    if c.isCommand word && !p.trailing && !p.awaits then
      match c.commands.lookup word with
      | none => .error (helpOn c rest)
      | some sub => do
        -- faults in the words of the subcommand come before that of a value still to be checked
        let inner ← readFrom sub {} rest
        p.finish c (some { inner with path := word :: inner.path })
    else do readFrom c (← p.takeWord c word) rest

/-- Takes a command line apart. -/
def read (c : Shape) (words : List String) : Except UsageError Invocation := readFrom c {} words

end Plugboard.Command
