import ScriptConsole.Edit.Editor
import ScriptConsole.Screen.Display
import ScriptConsole.System.Signals

/-!
Reading one submitted unit: events change the edited text, and the screen is brought up to date
after each. Between events the pending requests of `Signals` are looked at. The events are a list;
asking for one more than there are fails. -/
namespace ScriptConsole

inductive Poll
  | event (e : Event)
  | nothing
  -- A signal came, and nothing else; 2 is the interrupt.
  | signal (n : Int)
  deriving DecidableEq, Repr

inductive ReadOutcome
  | line (t : Text)
  | interrupted
  | endOfFile
  | terminated (signal : Int)
  deriving DecidableEq, Repr

inductive ReadFailure
  | outOfEvents
  -- An offset fell outside the text.
  | offset
  deriving DecidableEq, Repr

structure LineReader where
  prompt : Text
  highlighter : Highlighter
  width : Nat
  editor : Editor := {}
  display : Display := {}

/-- What one read came to: the outcome, what was written before each question for an event and
after the last, the events not used, and the state of the completer and the signals. -/
structure ReadResult (κ : Type) where
  outcome : Except ReadFailure ReadOutcome
  reader : LineReader
  frames : List Text
  out : Text
  rest : List Poll
  state : κ × Signals

namespace LineReader

def redraw (r : LineReader) : LineReader × Text :=
  let b := r.editor.buffer
  let (display, _, out) :=
    r.display.redisplay r.prompt (r.highlighter.highlight b.text true) b.point r.width
  ({ r with display }, out)

def leave (r : LineReader) : LineReader × Text :=
  let (display, out) := r.display.leave
  ({ r with display }, out)

def clear (r : LineReader) : LineReader := { r with editor := {} }

def padded (n : Nat) (t : Text) : Text := t ++ Editor.spaces (n - t.length)

def rowsOf (n : Nat) (l : List Text) : List (List Text) :=
  if _h : n = 0 ∨ l = [] then []
  else l.take n :: rowsOf n (l.drop n)
  termination_by l.length
  decreasing_by
    have := List.length_pos_iff.2 (fun e => _h (.inr e))
    simp only [List.length_drop]; omega

def candidateRows (width : Nat) (candidates : List Text) : Text :=
  let column := (candidates.map List.length).foldl max 0 + 2
  let perRow := max (width / column) 1
  (rowsOf perRow candidates).flatMap fun row => row.flatMap (padded column) ++ ['\r', '\n']

def showCandidates (r : LineReader) (candidates : List Text) : LineReader × Text :=
  let (r, first) := r.leave
  let (r, last) := r.redraw
  (r, first ++ candidateRows r.width candidates ++ last)

def handle {κ : Type} (r : LineReader) (s : Surroundings (κ × Signals)) (state : κ × Signals) :
    Event → Option (Outcome × Editor × (κ × Signals))
  | .key _ .release => some (.ignored, r.editor, state)
  | .key key _ => r.editor.press s state key
  | .paste t => (r.editor.paste t).map fun (outcome, editor) => (outcome, editor, state)
  | .resize _ _ => some (.changed, r.editor, state)
  | .focus _ => some (.ignored, r.editor, state)

/- Reads on; `pending` is what has been written since the last question for an event. -/
def loop {κ : Type} (s : Surroundings (κ × Signals)) (r : LineReader) (state : κ × Signals)
    (pending : Text) (polls : List Poll) : ReadResult κ :=
  let (k, signals) := state
  match signals.pendingTermination with
  | some signal =>
      let (r, out) := r.clear.leave
      ⟨.ok (.terminated signal), r, [], pending ++ out, polls, (k, signals)⟩
  | none =>
      let (signals, aborted) := signals.takeAbort
      if aborted then
        let (r, out) := r.clear.leave
        ⟨.ok .interrupted, r, [], pending ++ out, polls, (k, signals)⟩
      else
        match polls with
        | [] => ⟨.error .outOfEvents, r, [pending], [], [], (k, signals)⟩
        | .nothing :: rest => framed pending (loop s r (k, signals) [] rest)
        | .signal n :: rest =>
            let signals := if n = 2 then signals.interrupt.1 else (signals.terminate n).1
            framed pending (loop s r (k, signals) [] rest)
        | .event event :: rest =>
            match r.handle s (k, signals) event with
            | none => ⟨.error .offset, r, [pending], [], rest, (k, signals)⟩
            | some (outcome, editor, state) =>
                let r := { r with editor }
                match outcome with
                | .ignored => framed pending (loop s r state [] rest)
                | .changed =>
                    let (r, out) := r.redraw
                    framed pending (loop s r state out rest)
                | .candidates candidates =>
                    let (r, out) := r.showCandidates candidates
                    framed pending (loop s r state out rest)
                | .submit line =>
                    let (r, out) := r.leave
                    ⟨.ok (.line line), r, [pending], out, rest, state⟩
                | .endOfFile =>
                    let (r, out) := r.leave
                    ⟨.ok .endOfFile, r, [pending], out, rest, state⟩
                | .abort =>
                    let (r, out) := r.clear.leave
                    ⟨.ok .interrupted, r, [pending], out, rest, state⟩
where
  framed (frame : Text) (result : ReadResult κ) : ReadResult κ :=
    { result with frames := frame :: result.frames }

def readLine {κ : Type} (r : LineReader) (s : Surroundings (κ × Signals)) (state : κ × Signals)
    (polls : List Poll) : ReadResult κ :=
  let (r, out) := { r with display := r.display.reset }.redraw
  loop s r state out polls

end LineReader

end ScriptConsole
