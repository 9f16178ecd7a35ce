import Plugboard.Error
import Plugboard.Event
import Plugboard.Hook.Args

/-!
# Hook implementations

A plugin implements a hook by a handler. The handler declares the arguments it takes and answers
with a value, with nothing, or with an error; on the way it may report events.
-/

namespace Plugboard

/-- What a handler does with the arguments it declared. -/
abbrev Handler := Args → Traced (Except AppError (Option Json))

/-- A handler that a plugin offers for a hook. -/
structure HookImpl where
  /-- The hook that it implements. -/
  hook : String
  /-- The arguments that it takes. -/
  params : List String
  /-- The handler. -/
  handler : Handler

namespace HookImpl

/-- A handler that always answers with the same value. -/
def constant (hook : String) (params : List String) (value : Json) : HookImpl :=
  ⟨hook, params, fun _ => { result := .ok (some value) }⟩

/-- An implementation as a message shows it. -/
def describe (impl : HookImpl) : String :=
  "HookImpl \x7b hook_name: " ++ Text.quote impl.hook ++ ", argnames: " ++
    Text.quoteList impl.params ++ ", function: \"<closure>\" \x7d"

end HookImpl

end Plugboard
