/-!
# Reported events

What operations report as they run. An operation that reports returns its result together with its
events, in order; one that changes a state returns the new state as well.
-/

namespace Plugboard

/-- How much an event matters. -/
inductive Level where
  | debug
  | info
  | warn
  | error
  deriving Repr, DecidableEq

/-- The value of an event's field. -/
inductive FieldValue where
  | text (s : String)
  | count (n : Nat)
  | flag (b : Bool)
  deriving Repr, DecidableEq

/-- Something that an operation reports. -/
structure Event where
  /-- How much it matters. -/
  level : Level
  /-- What happened. -/
  message : String
  /-- To what it happened. -/
  fields : List (String × FieldValue)
  deriving Repr, DecidableEq

/-- A result with the events reported on the way to it. -/
structure Traced (α : Type) where
  /-- The result. -/
  result : α
  /-- The events, in order. -/
  events : List Event := []

/-- What an operation leaves behind: its result, its events and the new state. -/
structure Step (σ α : Type) extends Traced α where
  /-- The state after the operation. -/
  state : σ

/-- Puts events before those of a step. -/
def Step.after {σ α : Type} (earlier : List Event) (s : Step σ α) : Step σ α :=
  { s with events := earlier ++ s.events }

namespace Event

/-- An event for whoever looks into the workings. -/
def debug (message : String) (fields : List (String × FieldValue)) : Event :=
  ⟨.debug, message, fields⟩

/-- An event of the ordinary course. -/
def info (message : String) (fields : List (String × FieldValue)) : Event :=
  ⟨.info, message, fields⟩

/-- An event that asks for attention. -/
def warn (message : String) (fields : List (String × FieldValue)) : Event :=
  ⟨.warn, message, fields⟩

/-- A failure. -/
def error (message : String) (fields : List (String × FieldValue)) : Event :=
  ⟨.error, message, fields⟩

end Event

end Plugboard
