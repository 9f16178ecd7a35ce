import Plugboard.Plugin

/-!
# Registered handlers

A table holds, for each hook, the handlers of the registered plugins in the order of registration.
A hook without handlers is not in the table.

`impls_register` says what registering does to the handlers of a hook.
-/

namespace Plugboard

/-- A handler of a registered plugin. -/
structure HookEntry where
  /-- The handler. -/
  impl : HookImpl
  /-- The name that the plugin is bound to. -/
  plugin : String
  /-- The identity of the plugin. -/
  key : PluginKey

/-- The handlers of the registered plugins, by hook. -/
structure HookTable where
  /-- Hooks and their handlers. -/
  entries : List (String × List HookEntry) := []

namespace HookTable

/-- The handlers of a hook, in the order in which they are called. -/
def impls (t : HookTable) (hook : String) : List HookEntry :=
  (Keyed.get? hook t.entries).getD []

/-- Adds a handler at the end of those of its hook. -/
def register (t : HookTable) (entry : HookEntry) : HookTable :=
  ⟨Keyed.put entry.impl.hook (t.impls entry.impl.hook ++ [entry]) t.entries⟩

/-- Adds handlers one after another. -/
def registerAll (t : HookTable) (entries : List HookEntry) : HookTable :=
  entries.foldl register t

/-- What registering a handler reports. -/
def registerEvent (entry : HookEntry) : Event :=
  .debug "Hook implementation registered"
    [("hook", .text entry.impl.hook), ("plugin", .text entry.plugin)]

/-- Removes the handlers of a plugin. -/
def unregister (t : HookTable) (key : PluginKey) : HookTable :=
  ⟨(t.entries.map fun (hook, entries) => (hook, entries.filter (·.key ≠ key))).filter
    fun (_, entries) => !entries.isEmpty⟩

/-- Whether a hook has handlers. -/
def hasImpls (t : HookTable) (hook : String) : Bool := !(t.impls hook).isEmpty

/-- How many handlers a hook has. -/
def implCount (t : HookTable) (hook : String) : Nat := (t.impls hook).length

/-- The hooks that a plugin has handlers for, in order of their names. -/
def hooksOf (t : HookTable) (key : PluginKey) : List String :=
  Text.sort (Keyed.keys (t.entries.filter fun (_, entries) => entries.any (·.key = key)))

/-- The hooks that have handlers, in order of their names. -/
def hooks (t : HookTable) : List String := Text.sort (Keyed.keys t.entries)

@[simp] theorem impls_empty (hook : String) : ({} : HookTable).impls hook = [] := rfl

/-- A handler comes last among those of its hook; the other hooks keep theirs. -/
theorem impls_register (t : HookTable) (entry : HookEntry) (hook : String) :
    (t.register entry).impls hook =
      if entry.impl.hook = hook then t.impls hook ++ [entry] else t.impls hook := by
  by_cases h : entry.impl.hook = hook
  · subst h
    simp [register, impls, Keyed.get?_put_self]
  · simp [register, impls, Keyed.get?_put_of_ne (Ne.symm h), h]

end HookTable

end Plugboard
