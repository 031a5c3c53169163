import ScriptConsole.System.Signals
import ScriptConsole.Json.Value

/-!
What runs code: an evaluator with a state of type `σ`, which may look at the signals and receive
some while it runs. An exception is no failure here but text that starts with `throw `. -/
namespace ScriptConsole

structure Evaluator (σ : Type) where
  -- Runs a source; `none` means it produced no value.
  evaluate : σ → Signals → Text → Option Text × σ × Signals
  collectGarbage : σ → σ
  -- Throws all state away; may fail with a message.
  reset : σ → Except Text Unit × σ

def isThrown (value : Text) : Bool := Text.startsWith value "throw ".toList

end ScriptConsole
