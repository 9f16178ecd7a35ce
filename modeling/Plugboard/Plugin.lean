import Plugboard.Hook.Handler

/-!
# Plugins

A plugin is an object: two plugins may have the same contents and still be different, so each has a
key. The key names the line of objects that it comes from and, where one definition makes many
objects, its place in that line.

A plugin that states no name is called by the token of its key.
-/

namespace Plugboard

/-- The identity of a plugin object. -/
structure PluginKey where
  /-- The line of objects that it comes from. -/
  line : String
  /-- Its place among the objects made in that line, from one; zero for an object that was given. -/
  serial : Nat := 0
  deriving Repr, DecidableEq

namespace PluginKey

/-- How an object is called: by its line and its place in it. -/
def label (key : PluginKey) : String :=
  if key.serial = 0 then key.line else key.line ++ "~" ++ toString key.serial

/-- The text of a key. -/
def token (key : PluginKey) : String := "#" ++ key.label

end PluginKey

/-- What a plugin is apart from its identity. -/
structure PluginDef where
  /-- The name that it states. -/
  name? : Option String := none
  /-- The package that it ships in. -/
  package? : Option String := none
  /-- The handlers that it offers. -/
  impls : List HookImpl := []

/-- A plugin object. -/
structure Plugin extends PluginDef where
  /-- Its identity. -/
  key : PluginKey

namespace Plugin

/-- An object of a definition. -/
def make (key : PluginKey) (d : PluginDef) : Plugin := { d with key := key }

/-- The name that a plugin is registered under when none is asked for. -/
def derivedName (p : Plugin) : String := p.name?.getD p.key.token

/-- The name that a plugin is registered under: the one asked for, unless that is empty. -/
def registeredName (p : Plugin) (asked : Option String) : String :=
  match asked with
  | some name => if name = "" then p.derivedName else name
  | none => p.derivedName

@[simp] theorem key_make (key : PluginKey) (d : PluginDef) : (make key d).key = key := rfl

end Plugin

/-- The objects made so far, counted in each line. -/
abbrev Supply := List (String × Nat)

namespace Supply

/-- The next object of a line, and the supply after it. -/
def next (supply : Supply) (line : String) (d : PluginDef) : Plugin × Supply :=
  let serial := (Keyed.get? line supply).getD 0 + 1
  (.make ⟨line, serial⟩ d, Keyed.put line serial supply)

end Supply

/-- Which plugin to unregister. -/
inductive Selector where
  /-- The one bound to a name. -/
  | name (name : String)
  /-- An object, whatever its name. -/
  | object (key : PluginKey)
  deriving Repr, DecidableEq

end Plugboard
