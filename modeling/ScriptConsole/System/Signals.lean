/-!
What an interrupt means, by what the console is waiting for: it abandons the line being typed,
cancels a running evaluation, and is dropped during an exchange with a remote target. A terminating
signal is kept for whoever reads input. -/
namespace ScriptConsole

inductive Mode
  | idle | awaitingInput | evaluating | sendingRequest | awaitingResponse
  deriving DecidableEq, Repr

inductive InterruptAction
  | abortInput | cancelEvaluation | ignore
  deriving DecidableEq, Repr

def Mode.interruptAction : Mode → InterruptAction
  | awaitingInput => .abortInput
  | evaluating => .cancelEvaluation
  | idle | sendingRequest | awaitingResponse => .ignore

structure Signals where
  mode : Mode := .idle
  abort : Bool := false
  cancel : Bool := false
  -- The number of the last terminating signal; 0 when none came.
  termination : Int := 0
  deriving DecidableEq, Repr

namespace Signals

def interrupt (s : Signals) : Signals × InterruptAction :=
  let action := s.mode.interruptAction
  let s := match action with
    | .abortInput => { s with abort := true }
    | .cancelEvaluation => { s with cancel := true }
    | .ignore => s
  (s, action)

def takeAbort (s : Signals) : Signals × Bool := ({ s with abort := false }, s.abort)

def clearCancel (s : Signals) : Signals := { s with cancel := false }

def withMode (s : Signals) (mode : Mode) : Signals := { s with mode }

/- A terminating signal; answers whether the reader of input will see to it. -/
def terminate (s : Signals) (signal : Int) : Signals × Bool :=
  ({ s with termination := signal }, s.mode = .awaitingInput)

def pendingTermination (s : Signals) : Option Int :=
  if s.termination = 0 then none else some s.termination

end Signals

end ScriptConsole
