import ScriptConsole.Console.Report
import ScriptConsole.Target.Channel

/-! Running or printing a whole script. -/
namespace ScriptConsole

structure Printed where
  out : Text := []
  err : Text := []
  deriving DecidableEq, Repr

namespace Printed

def toOut (t : Text) : Printed := ⟨t, []⟩

def toErr (t : Text) : Printed := ⟨[], t⟩

def append (a b : Printed) : Printed := ⟨a.out ++ b.out, a.err ++ b.err⟩

instance : Append Printed := ⟨append⟩

end Printed

inductive RunError
  | lostConnection (e : ChannelError)
  | rawMode (reason : Text)
  | outOfEvents
  | offset
  deriving DecidableEq, Repr

def RunError.message : RunError → Text
  | lostConnection e => "Lost connection to the target: ".toList ++ e.chain
  | rawMode reason => "Failed to enter raw mode: ".toList ++ reason
  | outOfEvents => "out of events".toList
  | offset => "offset outside the text".toList

namespace Batch

/- Empties a first line that starts with `#!`, so that every other line keeps its number. -/
def stripShebang (source : Text) : Text :=
  match source with
  | '#' :: '!' :: _ => source.dropWhile (· != '\n')
  | _ => source

inductive Action (σ : Type)
  | print
  | run (c : Channel σ) (signals : Signals)

structure Done (σ : Type) where
  code : Except RunError Nat
  printed : Printed
  channel : Option (Channel σ × Signals)

def run {σ : Type} (source : Text) (language : Language) (options : CompileOptions) :
    Action σ → Done σ
  | .print =>
      match language.compile (stripShebang source) options with
      | .error diagnostics => ⟨.ok 1, reports diagnostics, none⟩
      | .ok code => ⟨.ok 0, .toOut (code ++ ['\n']), none⟩
  | .run c signals =>
      match language.compile (stripShebang source) options with
      | .error diagnostics => ⟨.ok 1, reports diagnostics, some (c, signals)⟩
      | .ok code =>
          let (reply, c, signals) := c.send signals code
          match reply with
          | .error e => ⟨.error (.lostConnection e), {}, some (c, signals)⟩
          | .ok (.value value) =>
              if isThrown value then ⟨.ok 1, .toErr (value ++ ['\n']), some (c, signals)⟩
              else ⟨.ok 0, {}, some (c, signals)⟩
          | .ok .noValue => ⟨.ok 0, {}, some (c, signals)⟩
where
  reports (diagnostics : List Diagnostic) : Printed :=
    .toErr (diagnostics.flatMap fun d => Report.position d ++ ['\n'])

end Batch

end ScriptConsole
