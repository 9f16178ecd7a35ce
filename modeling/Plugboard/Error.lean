import Plugboard.Json.Decode

/-!
# Errors

A `PluginError` says what went wrong among plugins and hooks. An `AppError` is what the application
as a whole reports: a kind, a message, and the text of what caused it. Every plugin error becomes an
application error of one kind, with the same message.
-/

namespace Plugboard

/-- The kinds of application errors. -/
inductive ErrorKind where
  | notFound
  | validation
  | conflict
  | internal
  | configuration
  | plugin
  | serialization
  | storage
  deriving Repr, DecidableEq

namespace ErrorKind

/-- The name of a kind in serialized form. -/
def name : ErrorKind → String
  | .notFound => "NotFound"
  | .validation => "Validation"
  | .conflict => "Conflict"
  | .internal => "Internal"
  | .configuration => "Configuration"
  | .plugin => "Plugin"
  | .serialization => "Serialization"
  | .storage => "Storage"

/-- The name of a kind in messages. -/
def label : ErrorKind → String
  | .notFound => "NOT_FOUND"
  | .validation => "VALIDATION"
  | .conflict => "CONFLICT"
  | .internal => "INTERNAL"
  | .configuration => "CONFIGURATION"
  | .plugin => "PLUGIN"
  | .serialization => "SERIALIZATION"
  | .storage => "STORAGE"

/-- All kinds, in order of declaration. -/
def all : List ErrorKind :=
  [.notFound, .validation, .conflict, .internal, .configuration, .plugin, .serialization, .storage]

/-- The kind that a JSON value names. -/
def ofJson : Json → Json.Decoded ErrorKind :=
  Json.asChoice (all.map fun k => (k.name, k))

end ErrorKind

/-- An error as the application reports it. -/
structure AppError where
  /-- What kind of error it is. -/
  kind : ErrorKind
  /-- What went wrong. -/
  message : String
  /-- The text of the error that caused it, if any. -/
  cause : Option String := none
  deriving Repr, DecidableEq

namespace AppError

/-- The text of an error: the kind's label and the message. -/
def text (e : AppError) : String := e.kind.label ++ ": " ++ e.message

/-- A copy of an error, which does not hold on to the cause. -/
def copy (e : AppError) : AppError := { e with cause := none }

/-- Something asked for does not exist. -/
def notFound (message : String) : AppError := { kind := .notFound, message }

/-- Input breaks a rule. -/
def validation (message : String) : AppError := { kind := .validation, message }

/-- Two things claim the same place. -/
def conflict (message : String) : AppError := { kind := .conflict, message }

/-- Something failed inside. -/
def internal (message : String) : AppError := { kind := .internal, message }

/-- The configuration cannot be used. -/
def configuration (message : String) : AppError := { kind := .configuration, message }

/-- A JSON value cannot be decoded. -/
def ofDecode (e : Json.DecodeError) : AppError :=
  { kind := .serialization
    message := "JSON serialization error: " ++ e.message
    cause := some e.message }

/-- A file cannot be read or written; the argument is the system's text. -/
def ofStorage (reason : String) : AppError :=
  { kind := .storage, message := "I/O error: " ++ reason, cause := some reason }

/-- Configuration sources cannot be combined; the argument is their text. -/
def ofConfiguration (reason : String) : AppError :=
  { kind := .configuration, message := "Configuration error: " ++ reason, cause := some reason }

end AppError

/-- What goes wrong among plugins and hooks. -/
inductive PluginError where
  /-- The object is already bound, to this name. -/
  | alreadyRegistered (name : String)
  /-- Another object holds the name. -/
  | nameConflict (name : String)
  /-- An entry point does not lead to an object. -/
  | notLoaded (name reason : String)
  /-- A hook is specified a second time with other parameters. -/
  | specConflict (hook : String) (existing declared : List String)
  /-- A handler has a parameter that its hook does not offer. -/
  | argMismatch (plugin hook argument : String) (accepted : List String)
  /-- A handler needs an argument that the call does not pass. -/
  | missingArgument (hook plugin argument : String)
  /-- A hook is neither specified nor implemented. -/
  | unknownHook (hook : String)
  /-- A container specifies nothing for the project. -/
  | noHookSpecs (project container : String)
  /-- A plugin implements a hook that nobody specified. -/
  | pendingImpl (plugin hook : String)
  /-- A handler failed. -/
  | handlerFailed (hook plugin : String) (source : AppError)
  /-- A distribution cannot be read. -/
  | badMetadata (path reason : String)
  deriving Repr, DecidableEq

namespace PluginError

/-- The text of an error. -/
def message : PluginError → String
  | .alreadyRegistered name => "Plugin already registered: " ++ name
  | .nameConflict name => "Plugin name already registered: " ++ name
  | .notLoaded name reason => "Plugin '" ++ name ++ "' could not be loaded: " ++ reason
  | .specConflict hook existing declared =>
    "Hook '" ++ hook ++ "' already specified with arguments " ++ Text.quoteList existing ++
      ", got " ++ Text.quoteList declared
  | .argMismatch plugin hook argument accepted =>
    "Plugin '" ++ plugin ++ "' for hook '" ++ hook ++ "': argument " ++ Text.quote argument ++
      " not available (spec accepts " ++ Text.quoteList accepted ++ ")"
  | .missingArgument hook plugin argument =>
    "Hook '" ++ hook ++ "' call for plugin '" ++ plugin ++ "' is missing argument " ++
      Text.quote argument
  | .unknownHook hook => "Unknown hook: " ++ hook
  | .noHookSpecs project container =>
    "Did not find any '" ++ project ++ "' hooks in " ++ container
  | .pendingImpl plugin hook => "Unknown hook '" ++ hook ++ "' in plugin '" ++ plugin ++ "'"
  | .handlerFailed hook plugin source =>
    "Hook '" ++ hook ++ "' failed in plugin '" ++ plugin ++ "': " ++ source.text
  | .badMetadata path reason => "Invalid distribution metadata in " ++ path ++ ": " ++ reason

/-- The kind of application error that a plugin error becomes. -/
def kind : PluginError → ErrorKind
  | .alreadyRegistered _ | .nameConflict _ => .conflict
  | .specConflict .. | .argMismatch .. | .missingArgument .. => .validation
  | .unknownHook _ => .notFound
  | .noHookSpecs .. | .pendingImpl .. | .notLoaded .. | .handlerFailed .. | .badMetadata .. =>
    .plugin

/-- The text of the error behind this one: the failure of a handler. -/
def source? : PluginError → Option String
  | .handlerFailed _ _ source => some source.text
  | _ => none

/-- The application error that a plugin error becomes. -/
def toAppError (e : PluginError) : AppError :=
  { kind := e.kind, message := e.message, cause := some e.message }

end PluginError

end Plugboard
