import ScriptConsole.Proofs.Edit.Ending
import ScriptConsole.Proofs.Edit.Trail

/-! What a reading does to the state of its completer and to the signals. Only the completer and the
requests that come in between events change them, so what these keep, the whole reading keeps. -/
namespace ScriptConsole

namespace LineReader
variable {κ : Type} {s : Surroundings (κ × Signals)} {holds : κ × Signals → Prop}

structure Survives (s : Surroundings (κ × Signals)) (holds : κ × Signals → Prop) : Prop where
  taken : ∀ k signals, holds (k,signals) → holds (k,signals.takeAbort.1)
  interrupted : ∀ k signals, holds (k,signals) → holds (k,signals.interrupt.1)
  terminated : ∀ k signals n, holds (k,signals) → holds (k,(signals.terminate n).1)
  completed : ∀ state context word, holds state → holds (s.completer.complete state context word).2

theorem Survives.handled (survives : Survives s holds) {r : LineReader} {state state' : κ × Signals}
    {event : Event} {o : Outcome} {e : Editor} (start : holds state)
    (h : r.handle s state event = some (o,e,state')) : holds state' := by
  rcases (Editor.handleLeads h).2 with rfl | ⟨context,word,rfl⟩
  · exact start
  · exact survives.completed state context word start

theorem Survives.signalled (survives : Survives s holds) {k : κ} {signals : Signals} (n : Int)
    (start : holds (k,signals)) :
    holds (k,if n = 2 then signals.interrupt.1 else (signals.terminate n).1) := by
  split
  · exact survives.interrupted k signals start
  · exact survives.terminated k signals n start

theorem Survives.next (survives : Survives s holds) {m m' : Moment κ} {poll : Poll} (start : holds m.state)
    (step : m.next s poll = some m') : holds m'.state := by
  have taken := survives.taken m.state.1 m.state.2 start
  unfold Moment.next at step
  split at step
  · contradiction
  · cases poll with
    | nothing => cases step; exact taken
    | signal n => cases step; exact survives.signalled n taken
    | event event =>
      simp only [Moment.after] at step
      split at step
      · cases step; exact survives.handled taken ‹_›
      · cases step; exact survives.handled taken ‹_›
      · cases step; exact survives.handled taken ‹_›
      · contradiction

theorem Survives.trail (survives : Survives s holds) {m : Moment κ} {polls : List Poll}
    (start : holds m.state) : ∀ m' ∈ m.trail s polls, holds m'.state :=
  Moment.trailAll start fun _ _ _ _ _ _ step kept => survives.next kept step

structure Left (abort : Bool) (polls : List Poll) (result : ReadResult κ) : Prop where
  line : ∀ t, result.outcome = .ok (.line t) → result.rest.length < polls.length
  interrupted : result.outcome = .ok .interrupted →
    result.rest.length < polls.length ∨
      result.rest = polls ∧ abort = true ∧ result.state.2.abort = false

theorem Left.framed {abort abort' : Bool} {poll : Poll} {rest : List Poll} {result : ReadResult κ}
    (left : Left abort' rest result) (frame : Text) :
    Left abort (poll :: rest) (loop.framed frame result) where
  line t ended := Nat.lt_succ_of_lt (left.line t ended)
  interrupted ended := by
    refine .inl ?_
    rcases left.interrupted ended with fewer | ⟨same,_⟩
    · exact Nat.lt_succ_of_lt fewer
    · rw [loop.framed,same]
      exact Nat.lt_succ_self _

theorem leftShorter {abort : Bool} {polls : List Poll} {result : ReadResult κ}
    (fewer : result.rest.length < polls.length) : Left abort polls result :=
  ⟨fun _ _ => fewer,fun _ => .inl fewer⟩

theorem leftOther {abort : Bool} {polls : List Poll} {result : ReadResult κ}
    (line : ∀ t, result.outcome ≠ .ok (.line t)) (interrupted : result.outcome ≠ .ok .interrupted) :
    Left abort polls result :=
  ⟨fun t ended => absurd ended (line t),fun ended => absurd ended interrupted⟩

theorem Survives.stopped (survives : Survives s holds) (r : LineReader) {state : κ × Signals}
    (pending : Text) (polls : List Poll) (start : holds state)
    (stops : state.2.pendingTermination.isSome = true ∨ state.2.abort = true) :
    holds (loop s r state pending polls).state ∧
      Left state.2.abort polls (loop s r state pending polls) := by
  rcases Moment.loopStops s r stops pending polls with ⟨signal,same⟩ | ⟨aborts,same⟩
  · rw [same]
    exact ⟨start,leftOther (fun _ same => by cases same) (fun same => by cases same)⟩
  · rw [same]
    exact ⟨survives.taken state.1 state.2 start,(fun _ same => by cases same),fun _ => .inr ⟨rfl,aborts,rfl⟩⟩

theorem Survives.read (survives : Survives s holds) (r : LineReader) (state : κ × Signals) (pending : Text)
    (polls : List Poll) (start : holds state) :
    holds (loop s r state pending polls).state ∧ Left state.2.abort polls (loop s r state pending polls) := by
  -- the turn either ends the reading or leads to the rest, whose result it only puts a frame before
  induction polls generalizing r state pending with
  | nil =>
    by_cases stops : state.2.pendingTermination.isSome = true ∨ state.2.abort = true
    · exact survives.stopped r pending [] start stops
    · rw [Moment.loopOut stops]
      exact ⟨survives.taken state.1 state.2 start,
        leftOther (fun _ same => by cases same) (fun same => by cases same)⟩
  | cons poll rest ih =>
    by_cases stops : state.2.pendingTermination.isSome = true ∨ state.2.abort = true
    · exact survives.stopped r pending (poll :: rest) start stops
    · obtain ⟨k,signals⟩ := state
      have taken := survives.taken k signals start
      have goesOn (r : LineReader) (state : κ × Signals) (out : Text) (later : holds state) :
          holds (loop.framed pending (loop s r state out rest)).state ∧
            Left signals.abort (poll :: rest) (loop.framed pending (loop s r state out rest)) :=
        ⟨(ih r state out later).1,(ih r state out later).2.framed pending⟩
      cases poll with
      | nothing =>
        rw [Moment.loopNothing stops]
        exact goesOn _ _ _ taken
      | signal n =>
        rw [Moment.loopSignal stops]
        exact goesOn _ _ _ (survives.signalled n taken)
      | event event =>
        rcases handled : r.handle s (k,signals.takeAbort.1) event with _ | ⟨outcome,editor,state⟩
        · rw [Moment.loopLost stops pending rest handled]
          exact ⟨taken,leftShorter (Nat.lt_succ_self _)⟩
        · have kept := survives.handled taken handled
          rw [Moment.loopHandles stops pending rest handled]
          cases outcome with
          | ignored | changed | candidates l => exact goesOn _ _ _ kept
          | submit t | endOfFile | abort => exact ⟨kept,leftShorter (Nat.lt_succ_self _)⟩

end LineReader
end ScriptConsole
