import ScriptConsole.System.IoError
import ScriptConsole.System.Signals
import ScriptConsole.Text.Utf8

/-!
A byte stream to a peer, as a value: what is still to arrive, piece by piece and with the failures
in between, and how much the peer will still take. After the last piece the stream is at its end.
Reading a fixed number of bytes goes on after an interrupted read and stops at every other
failure. -/
namespace ScriptConsole

inductive Arrival
  | bytes (b : Bytes)
  | fault (e : IoError)
  deriving DecidableEq, Repr

inductive Access
  | read (mode : Mode)
  | write (mode : Mode)
  deriving DecidableEq, Repr

structure Stream where
  arrivals : List Arrival := []
  -- How many bytes the peer still takes; none for no limit.
  room : Option Nat := none
  written : Bytes := []
  -- The uses so far, last first, equal neighbours once.
  uses : List Access := []
  deriving DecidableEq, Repr

inductive ReadEnd
  | complete
  | endOfStream
  | fault (e : IoError)
  deriving DecidableEq, Repr

/-- Reads `n` bytes: those that arrived, how it ended, and what is still to arrive. Interrupted
reads are tried again. -/
def gather (n : Nat) : List Arrival → Bytes × ReadEnd × List Arrival
  | [] => ([], if n = 0 then .complete else .endOfStream, [])
  | arrival :: rest =>
      if n = 0 then ([], .complete, arrival :: rest)
      else match arrival with
        | .fault .interrupted => gather n rest
        | .fault e => ([], .fault e, rest)
        | .bytes b =>
            if b.length < n then
              let (more, ending, left) := gather (n - b.length) rest
              (b ++ more, ending, left)
            else
              (b.take n, .complete,
                if b.length = n then rest else .bytes (b.drop n) :: rest)

def pendingBytes : List Arrival → Nat
  | [] => 0
  | .bytes b :: rest => b.length + pendingBytes rest
  | .fault _ :: rest => pendingBytes rest

theorem gatherLength (n : Nat) (arrivals : List Arrival) :
    (gather n arrivals).1.length + pendingBytes (gather n arrivals).2.2 ≤
      pendingBytes arrivals := by
  induction arrivals generalizing n with
  | nil => simp [gather, pendingBytes]
  | cons arrival rest ih =>
      unfold gather
      by_cases hn : n = 0
      · simp [hn]
      · simp only [hn, if_false]
        cases arrival with
        | fault e =>
            cases e <;> simp [pendingBytes, ih]
        | bytes b =>
            by_cases hb : b.length < n
            · have := ih (n - b.length)
              rcases hg : gather (n - b.length) rest with ⟨more, ending, left⟩
              rw [hg] at this
              simp only [hb, if_true, List.length_append, pendingBytes, hg] at this ⊢
              omega
            · by_cases he : b.length = n
              · simp [he, pendingBytes]
              · simp only [hb, if_false, he, pendingBytes, List.length_take, List.length_drop]
                omega

theorem gatherComplete (n : Nat) (arrivals : List Arrival)
    (h : (gather n arrivals).2.1 = .complete) : (gather n arrivals).1.length = n := by
  induction arrivals generalizing n with
  | nil => by_cases hn : n = 0 <;> simp_all [gather]
  | cons arrival rest ih =>
      unfold gather at h ⊢
      by_cases hn : n = 0
      · simp [hn]
      · simp only [hn, if_false] at h ⊢
        cases arrival with
        | fault e => cases e <;> simp_all
        | bytes b =>
            by_cases hb : b.length < n
            · simp only [hb, if_true] at h ⊢
              have := ih (n - b.length) h
              simp only [List.length_append]; omega
            · simp only [hb, if_false, List.length_take]; omega

namespace Stream

def use (s : Stream) (a : Access) : Stream :=
  if s.uses.head? = some a then s else { s with uses := a :: s.uses }

/- Reads `n` bytes; for `n = 0` the stream is not asked. -/
def readBytes (s : Stream) (mode : Mode) (n : Nat) : Bytes × ReadEnd × Stream :=
  let (b, ending, arrivals) := gather n s.arrivals
  let s := if n = 0 then s else s.use (.read mode)
  (b, ending, { s with arrivals })

def writeBytes (s : Stream) (mode : Mode) (b : Bytes) : Except IoError Unit × Stream :=
  if b.isEmpty then (.ok (), s)
  else
    let s := s.use (.write mode)
    match s.room with
    | none => (.ok (), { s with written := s.written ++ b })
    | some room =>
        let s := { s with written := s.written ++ b.take room, room := some (room - b.length) }
        (if b.length ≤ room then .ok () else .error .brokenPipe, s)

def pieces (chunk : Nat) (b : Bytes) : List Arrival :=
  if _h : chunk = 0 ∨ b = [] then []
  else .bytes (b.take chunk) :: pieces chunk (b.drop chunk)
  termination_by b.length
  decreasing_by
    have := List.length_pos_iff.2 (fun e => _h (.inr e))
    simp only [List.length_drop]; omega

/- The arrivals of bytes that come in pieces of at most `chunk`, with failures at given positions,
sorted; `position` counts the bytes before. -/
def arrivalsOf (chunk : Nat) (position : Nat) (b : Bytes) : List (Nat × IoError) → List Arrival
  | [] => pieces chunk b
  | (n, e) :: faults =>
      pieces chunk (b.take (n - position)) ++ .fault e ::
        arrivalsOf chunk (max position n) (b.drop (n - position)) faults

/-- A stream of bytes that arrive in pieces, with failures at positions. A failure after the last
byte is met by a read at the end. -/
def ofBytes (b : Bytes) (chunk : Option Nat) (faults : List (Nat × IoError)) (room : Option Nat) :
    Stream :=
  let faults := (faults.filter (·.1 ≤ b.length)).mergeSort fun x y => x.1 ≤ y.1
  { arrivals := arrivalsOf (chunk.getD (b.length + 1)) 0 b faults, room }

end Stream

end ScriptConsole
