import ScriptConsole.Screen.Layout
import ScriptConsole.Screen.Marked

/-!
Redisplay of the prompt and the edited text. The display keeps where the terminal's cursor is,
counted from the start of the prompt; measuring and painting take the same steps, so a measured
position is where painting leaves the cursor. Every operation answers the new display and what the
terminal is sent. -/
namespace ScriptConsole

structure Display where
  current : Position := .origin
  width : Option Nat := none
  point : Nat := 0
  finish : Position := .origin
  deriving DecidableEq, Repr

namespace Display

structure Replay where
  current : Position
  target : Option Position
  out : Text
  deriving DecidableEq, Repr

/-- Replays marked text from a position; `visible` counts the visible bytes so far and `hidden`
tells whether a hidden run is open. The target is the position at the visible offset `offset`. -/
def replayFrom (width : Nat) (offset : Option Nat) (visible : Nat) (hidden : Bool)
    (current : Position) (target : Option Position) : Text → Replay
  | [] =>
      let reached := target.isNone && offset = some visible
      ⟨current, if reached then some current else target, []⟩
  | c :: rest =>
      if hidden then
        if c = Marked.hiddenEnd then replayFrom width offset visible false current target rest
        else
          let r := replayFrom width offset visible true current target rest
          { r with out := c :: r.out }
      else if c = Marked.hiddenStart then
        replayFrom width offset visible true current target rest
      else if c = Marked.hiddenEnd then
        replayFrom width offset visible false current target rest
      else
        let reached := target.isNone && offset = some visible
        let target := if reached then some current else target
        let (next, effect) := advance current c width
        let r := replayFrom width offset (visible + c.utf8Size) false next target rest
        { r with out := effect.output c ++ r.out }

def replay (d : Display) (t : Text) (offset : Option Nat) (width : Nat) : Replay :=
  replayFrom width offset 0 false d.current none t

def measure (d : Display) (t : Text) (offset : Option Nat) (width : Nat) :
    Display × Option Position :=
  let r := d.replay t offset width
  ({ d with current := r.current }, r.target)

def paint (d : Display) (t : Text) (offset : Option Nat) (width : Nat) :
    Display × Option Position × Text :=
  let r := d.replay t offset width
  ({ d with current := r.current }, r.target, r.out)

def moveTo (d : Display) (target : Position) : Display × Text :=
  ({ d with current := target },
    if target.held = d.current.held then []
    else Escape.vertical (Position.wrap (target.row - d.current.row)) ++ Escape.column target.col)

def resync (d : Display) (prompt marked : Text) (width : Nat) : Display :=
  match d.width with
  | none => d
  | some old =>
      if old = width then d
      else
        let (d, _) := { d with current := .origin }.measure prompt none width
        let (d, target) := d.measure marked (some d.point) width
        { d with current := target.getD d.current }

def redisplay (d : Display) (prompt marked : Text) (point width : Nat) :
    Display × Position × Text :=
  let d := d.resync prompt marked width
  let (d, home) := d.moveTo .origin
  let (d, _, first) := d.paint prompt none width
  let (d, target, second) := d.paint marked (some point) width
  let finish := d.current
  let target := target.getD d.current
  let (d, park) := d.moveTo target
  ({ d with width := some width, point, finish }, target,
    home ++ first ++ second ++ Escape.eraseScreen ++ park)

def reset (d : Display) : Display := { d with current := .origin, finish := .origin, point := 0 }

def leave (d : Display) : Display × Text :=
  let (d, out) := d.moveTo d.finish
  (d.reset, out ++ ['\r', '\n'])

end Display

end ScriptConsole
