import Plugboard.Distribution.Scan
import Plugboard.Plugin

/-!
# Discovery

Where plugins come from: a `Source` says which distributions are installed, a `Resolver` how the
value of an entry point becomes a plugin object. A factory is found by the whole value, extras and
all, or else by the module part of it, which is what stands before its colon. So a factory for the
module answers for any attribute, with extras or without; behind a module alone extras are part of
the module, and a factory without them is not found.
-/

namespace Plugboard

/-- How a plugin is made. -/
inductive Factory where
  /-- The same object every time. -/
  | shared (plugin : Plugin)
  /-- A new object of a line every time. -/
  | fresh (line : String) (definition : PluginDef)

namespace Factory

/-- The object that a factory yields. -/
def run (supply : Supply) : Factory → Plugin × Supply
  | .shared plugin => (plugin, supply)
  | .fresh line definition => supply.next line definition

end Factory

/-- Factories by the entry-point values that name them. -/
structure Resolver where
  /-- Values, without white space at their ends, and factories. -/
  factories : List (String × Factory) := []

namespace Resolver

/-- Adds a factory for a value, in place of the one it has. -/
def add (r : Resolver) (value : String) (factory : Factory) : Resolver :=
  ⟨Keyed.put (Text.trim value) factory r.factories⟩

/-- The resolver of a list of values and factories; of factories for one value the last counts. -/
def ofList (factories : List (String × Factory)) : Resolver :=
  factories.foldl (fun r (value, factory) => r.add value factory) {}

/-- Whether there is a factory for a value. -/
def contains (r : Resolver) (value : String) : Bool :=
  (Keyed.get? (Text.trim value) r.factories).isSome

/-- The factory for the value of an entry point, or else for its module. -/
def factory? (r : Resolver) (e : EntryPoint) : Option Factory :=
  Keyed.get? (Text.trim e.value) r.factories <|> Keyed.get? e.module r.factories

/-- The plugin that an entry point leads to. -/
def resolve (r : Resolver) (supply : Supply) (e : EntryPoint) :
    Except PluginError (Plugin × Supply) :=
  match r.factory? e with
  | some factory => .ok (factory.run supply)
  | none => .error (.notLoaded e.name ("no plugin factory for `" ++ e.value ++ "`"))

/-- A resolver as a message shows it: the values it knows. -/
def describe (r : Resolver) : String :=
  "FactoryResolver \x7b values: " ++ Text.quoteList (Text.sort (Keyed.keys r.factories)) ++ " \x7d"

end Resolver

/-- Where distributions are installed. -/
inductive Source where
  /-- These distributions. -/
  | installed (distributions : List Distribution)
  /-- The folder at a path. -/
  | folder (root : String)

/-- The distributions of a source. -/
def Source.distributions (files : Files) : Source → Traced (List Distribution)
  | .installed distributions => { result := distributions }
  | .folder root => Distribution.scan files root

/-- A source with the way to make plugins of its entry points. -/
structure Discovery where
  /-- What is installed. -/
  source : Source
  /-- How entry points become plugins. -/
  resolver : Resolver

end Plugboard
