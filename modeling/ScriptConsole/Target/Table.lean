import ScriptConsole.Target.Names

/-!
An evaluator given by a table of replies. It keeps what it was asked, with the mode and the cancel
flag of that time, and can be interrupted while it runs. -/
namespace ScriptConsole.Table

inductive Fallback
  | source | quoted | nothing
  deriving DecidableEq, Repr

inductive Call
  | evaluate (source : Text) (mode : Mode) (cancel : Bool) (interrupt : Option InterruptAction)
  | collectGarbage
  | reset
  deriving DecidableEq, Repr

structure Rules where
  replies : List (Text × Option Text)
  -- Replies to the snippets that list the names of an expression.
  names : List (Text × Text)
  fallback : Fallback
  interrupted : List Text
  resetError : Option Text
  deriving DecidableEq, Repr

def Rules.reply (r : Rules) (source : Text) : Option Text :=
  match r.names.find? fun (expression, _) => Names.snippet expression == source with
  | some (_, json) => some json
  | none =>
      match r.replies.find? (·.1 == source) with
      | some (_, reply) => reply
      | none =>
          match r.fallback with
          | .source => some source
          | .quoted => some (Json.quote source)
          | .nothing => none

/- The evaluator of a table; its state is the calls so far, last first. -/
def evaluator (r : Rules) : Evaluator (List Call) where
  evaluate calls signals source :=
    let interrupted := r.interrupted.contains source
    let after := if interrupted then signals.interrupt.1 else signals
    let action := if interrupted then some signals.interrupt.2 else none
    (r.reply source, .evaluate source signals.mode signals.cancel action :: calls, after)
  collectGarbage calls := .collectGarbage :: calls
  reset calls := (match r.resetError with
    | some message => .error message
    | none => .ok (), .reset :: calls)

end ScriptConsole.Table
