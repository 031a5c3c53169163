import ScriptConsole.Script.Parse

/-!
Where reading stops for want of a reading: the first token that nothing before it can be followed by,
and what would have fit there. -/
namespace ScriptConsole.Script
open Grammar (State)

structure Stop where
  start : Nat
  stop : Nat
  state : State

namespace Session

def readOn : Nat → Session → Nat → Session
  | 0, session, _ => session
  | fuel + 1, session, last =>
      if session.versions.any Version.isActive then
        let (session, last) := advanceAll 1000 session 0 last
        readOn fuel (thin (4 * session.versions.size + 1) session 0 none).1 last
      else session

def stopOf? (session : Session) (version : Version) : Option Stop := do
  let state ← (session.node version.node).state
  match version.status with
  | .paused lookahead => some ⟨lookahead.start, lookahead.stop, state⟩
  | _ => none

end Session

namespace Tongue

def stop? (tongue : Tongue) (source : Source) : Option Stop :=
  let start : StackNode := ⟨tongue.start, #[], 0, 0, 0, 0⟩
  let session := Session.readOn (20 * source.length + 1000)
    ⟨tongue, source, #[start], #[⟨0, .active, 0, none⟩], none, 0⟩ 0
  (session.versions.toList.filterMap session.stopOf?).foldl (fun best stop => match best with
    | some (other : Stop) => if other.start < stop.start then some stop else best
    | none => some stop) none

def fits (tongue : Tongue) (stop : Stop) (shape : Grammar.Shape) : Bool :=
  !(stop.state.actionsAt (tongue.rules.table.numberOf.getD shape 0)).isEmpty

end Tongue

end ScriptConsole.Script
