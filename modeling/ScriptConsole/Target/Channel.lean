import ScriptConsole.Target.Evaluator
import ScriptConsole.Wire.Frame

/-!
Where submitted code runs: an evaluator of this process, or a peer that speaks the frame protocol.
The mode of the signals tells which stage of the exchange is on, and afterwards is again what it
was before. -/
namespace ScriptConsole

inductive Reply
  | value (t : Text)
  | noValue
  deriving DecidableEq, Repr

inductive Target (σ : Type)
  | inProcess (state : σ)
  | remote (s : Stream)

structure Channel (σ : Type) where
  evaluator : Evaluator σ
  target : Target σ

namespace Channel

variable {σ : Type}

def isRemote (c : Channel σ) : Bool :=
  match c.target with
  | .remote _ => true
  | .inProcess _ => false

def exchange (s : Stream) (source : Text) : Except ChannelError Reply × Stream :=
  match Frame.write s .sendingRequest (Utf8.encode source) with
  | (.error e, s) => (.error e, s)
  | (.ok (), s) =>
      match Frame.readResponse s .awaitingResponse with
      | (.error e, s) => (.error e, s)
      | (.ok none, s) => (.ok .noValue, s)
      | (.ok (some payload), s) => (.ok (.value (Utf8.decodeLossy payload)), s)

def send (c : Channel σ) (signals : Signals) (source : Text) :
    Except ChannelError Reply × Channel σ × Signals :=
  match c.target with
  | .inProcess state =>
      let (value, state, after) :=
        c.evaluator.evaluate state (signals.withMode .evaluating).clearCancel source
      (.ok (value.elim .noValue .value), { c with target := .inProcess state },
        after.clearCancel.withMode signals.mode)
  | .remote s =>
      let (reply, s) := exchange s source
      (reply, { c with target := .remote s }, signals)

def collectGarbage (c : Channel σ) : Except ChannelError Unit × Channel σ :=
  match c.target with
  | .inProcess state => (.ok (), { c with target := .inProcess (c.evaluator.collectGarbage state) })
  | .remote _ => (.error (.unsupported "?gc".toList), c)

/- Throws the evaluator's state away; the error is a message. -/
def destroy (c : Channel σ) : Except Text Unit × Channel σ :=
  match c.target with
  | .inProcess state =>
      let (result, state) := c.evaluator.reset state
      (result, { c with target := .inProcess state })
  | .remote _ => (.error (ChannelError.unsupported "?destroy".toList).message, c)

end Channel

end ScriptConsole
