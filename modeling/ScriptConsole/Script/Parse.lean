import ScriptConsole.Script.Recovery
import ScriptConsole.Grammar.JavaScript

/-!
Parsing: every version reads on token by token, those that are worse than others are given up, and
the cheapest whole tree is the answer. The work is bounded by a count of steps that grows with the
text. -/
namespace ScriptConsole.Script
open Grammar (Action State)

inductive Progress
  | done
  -- Productions ended; this version goes on.
  | moved (target : Nat)
  | spent
  | unfit

namespace Session

def act (v : Nat) (lookahead : Tree) (state : Option State) :
    List Action → Progress → Session → Session × Progress
  | [], progress, session => (session, progress)
  | .shift true :: rest, progress, session => act v lookahead state rest progress session
  | .shift false :: _, _, session =>
      let next := match lookahead.label with
        | .symbol symbol => state.bind (·.goto? symbol)
        | _ => none
      (session.push v (some { lookahead with extra := false }) next, .done)
  | .shiftExtra :: _, _, session =>
      (session.push v (some { lookahead with extra := true }) state, .done)
  | .accept :: _, _, session => (session.accept v lookahead, .done)
  | .reduce reduction :: rest, progress, session =>
      let (session, made) := session.reduce v reduction
      let progress := match made, progress with
        | some w, _ => .moved w
        | none, .moved w => .moved w
        | none, _ => .spent
      act v lookahead state rest progress session

/-- Reads one token on a version, ending productions before it. Where it fits nowhere the version
stops, or skips it if it is inside an error. -/
def advance (session : Session) (v : Nat) : Session :=
  go 200000 session (session.readToken v)
where
  go : Nat → Session → Tree → Session
    | 0, session, _ => session.setStatus v .halted
    | fuel + 1, session, lookahead =>
        match session.stateOf v with
        | none =>
            if session.isExtra lookahead then
              session.push v (some { lookahead with extra := true }) none
            else session.recover v lookahead
        | some state =>
            match act v lookahead state (actionsAt state lookahead.label) .unfit session with
            | (session, .done) => session
            | (session, .moved w) => go fuel (session.moveTo w v) lookahead
            | (session, .spent) => session.setStatus v .halted
            | (session, .unfit) =>
                let name := Label.symbol (.terminal session.tongue.lexicon.name)
                let reserved := match lookahead.label.token? with
                  | some t => session.isReserved state t
                  | none => false
                if lookahead.keyword && lookahead.label != name && !reserved &&
                    !(actionsAt state name).isEmpty then
                  go fuel session { lookahead with label := name }
                else
                  session.modifyVersion v fun version =>
                    { version with
                      status := .paused lookahead
                      countAtError := (session.node version.node).count }

/- Compares a version with those before it. Answers which version comes next. -/
def compareEarlier (own : Standing) : Nat → Session → Nat → Nat → Session × Nat
  | 0, session, v, _ => (session, v + 1)
  | fuel + 1, session, v, w =>
      if w ≥ v then (session, v + 1)
      else
        let (session, other) := session.standing w
        match other.compare own with
        | .takeLeft => (session.remove v, v)
        | .preferLeft | .either =>
            match session.merge w v with
            | (session, true) => (session, v)
            | (session, false) => compareEarlier own fuel session v (w + 1)
        | .preferRight =>
            match session.merge w v with
            | (session, true) => (session, v)
            | (session, false) => compareEarlier own fuel (session.swap v w) v (w + 1)
        | .takeRight => compareEarlier own fuel (session.remove w) (v - 1) w

/- Gives up what is worse than other versions. Answers the least cost of those that are in no
error. -/
def thin : Nat → Session → Nat → Option Nat → Session × Option Nat
  | 0, session, _, least => (session, least)
  | fuel + 1, session, v, least =>
      if v ≥ session.versions.size then (session, least)
      else if (session.version v).isHalted then thin fuel (session.remove v) v least
      else
        let (session, own) := session.standing v
        let least := if own.inError then least
          else some (match least with
            | some cost => min cost own.cost
            | none => own.cost)
        let (session, next) := session.compareEarlier own (2 * session.versions.size + 1) v 0
        thin fuel session next least

/- Lets the first of the versions that met an error go on if none but such are before it. -/
def resume : Nat → Session → Nat → Nat → Bool → Option Nat → Session × Option Nat
  | 0, session, _, _, _, least => (session, least)
  | fuel + 1, session, v, count, resumed, least =>
      if v ≥ count then (session, least)
      else
        match (session.version v).status with
        | .paused lookahead =>
            if !resumed && session.accepted < maxVersions then
              let cost := session.errorCostOf v
              let session := (session.setStatus v .active).handleError v lookahead
              resume fuel session (v + 1) count true (some cost)
            else resume fuel (session.remove v) v (count - 1) resumed least
        | _ => resume fuel session (v + 1) count true least

def condense (session : Session) : Session × Option Nat :=
  let (session, least) := thin (4 * session.versions.size + 1) session 0 none
  let session := { session with versions := session.versions.take maxVersions }
  resume (session.versions.size + 1) session 0 session.versions.size false least

def advanceWhile (v : Nat) : Nat → Session → Nat → Session × Nat
  | 0, session, last => (session, last)
  | fuel + 1, session, last =>
      if v < session.versions.size && (session.version v).isActive then
        let session := session.advance v
        let place := (session.top v).place
        if place > last || (v > 0 && place = last) then (session, place)
        else advanceWhile v fuel session last
      else (session, last)

def advanceAll : Nat → Session → Nat → Nat → Session × Nat
  | 0, session, _, last => (session, last)
  | fuel + 1, session, v, last =>
      if v ≥ session.versions.size then (session, last)
      else
        let (session, last) := advanceWhile v 1000 session last
        advanceAll fuel session (v + 1) last

def rounds : Nat → Session → Nat → Session
  | 0, session, _ => session
  | fuel + 1, session, last =>
      let (session, last) := advanceAll 1000 session 0 last
      if session.versions.isEmpty then session
      else
        let (session, least) := session.condense
        let settled : Bool := match session.finished, least with
          | some tree, some least => tree.cost < least
          | some _, none => true
          | none, _ => false
        if settled then session else rounds fuel session last

end Session

namespace Tongue

def parse (tongue : Tongue) (source : Source) : Option Tree :=
  let start : StackNode := ⟨tongue.start, #[], 0, 0, 0, 0⟩
  (Session.rounds (20 * source.length + 1000)
    ⟨tongue, source, #[start], #[⟨0, .active, 0, none⟩], none, 0⟩ 0).finished

def ofGrammar (description : Grammar.Description) : Tongue :=
  let table := description.table
  let rules := table.rules
  ⟨rules, .ofTable table, rules.start 1000000000⟩

def javaScript : Thunk Tongue := Thunk.mk fun _ => ofGrammar Grammar.JavaScript.description

end Tongue

end ScriptConsole.Script
