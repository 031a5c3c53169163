import ScriptConsole.Proofs.Edit.Keys

/-! A reading as a sequence of moments, one for each turn of its loop: the reader and the state there,
and what has been written so far, the part before the present prompt kept apart. -/
namespace ScriptConsole.LineReader

structure Moment (κ : Type) where
  reader : LineReader
  state : κ × Signals
  /-- Written before the present prompt was painted for the first time. -/
  above : Text
  since : Text

namespace Moment
variable {κ : Type}

def written (m : Moment κ) : Text := m.above ++ m.since

def Stops (m : Moment κ) : Prop :=
  m.state.2.pendingTermination.isSome = true ∨ m.state.2.abort = true

instance (m : Moment κ) : Decidable m.Stops := inferInstanceAs (Decidable (_ ∨ _))

def after (s : Surroundings (κ × Signals)) (m : Moment κ) (event : Event) : Option (Moment κ) :=
  match m.reader.handle s (m.state.1,m.state.2.takeAbort.1) event with
  | some (.ignored,editor,state) => some { m with reader := { m.reader with editor }, state }
  | some (.changed,editor,state) =>
      let (reader,out) := { m.reader with editor }.redraw
      some { m with reader, state, since := m.since ++ out }
  | some (.candidates l,editor,state) =>
      let (reader,first) := { m.reader with editor }.leave
      let (next,last) := reader.redraw
      some ⟨next,state,m.written ++ first ++ candidateRows reader.width l,last⟩
  | _ => none

def next (s : Surroundings (κ × Signals)) (m : Moment κ) (poll : Poll) : Option (Moment κ) :=
  if m.Stops then none
  else
    let signals := m.state.2.takeAbort.1
    match poll with
    | .nothing => some { m with state := (m.state.1,signals) }
    | .signal n =>
        let signals := if n = 2 then signals.interrupt.1 else (signals.terminate n).1
        some { m with state := (m.state.1,signals) }
    | .event event => m.after s event

def trail (s : Surroundings (κ × Signals)) (m : Moment κ) : List Poll → List (Moment κ)
  | [] => [m]
  | poll :: rest => m :: match m.next s poll with
      | none => []
      | some m => m.trail s rest

def opening (r : LineReader) (state : κ × Signals) : Moment κ :=
  let (reader,out) := { r with display := r.display.reset }.redraw
  ⟨reader,state,[],out⟩

theorem trailHead (s : Surroundings (κ × Signals)) (m : Moment κ) (polls : List Poll) :
    ∃ rest, m.trail s polls = m :: rest := by
  cases polls with
  | nil => exact ⟨[],rfl⟩
  | cons poll rest => exact ⟨_,rfl⟩

theorem nextKeeps {s : Surroundings (κ × Signals)} {m m' : Moment κ} {poll : Poll}
    (step : m.next s poll = some m') :
    m'.reader = { m.reader with editor := m'.reader.editor, display := m'.reader.display } := by
  unfold next at step
  split at step
  · contradiction
  · cases poll with
    | nothing => cases step; rfl
    | signal n => cases step; rfl
    | event event =>
      simp only [after] at step
      split at step
      · cases step; rfl
      · cases step; rfl
      · cases step; rfl
      · contradiction

theorem trailAll {s : Surroundings (κ × Signals)} {holds : Moment κ → Prop} {m : Moment κ} {polls : List Poll}
    (start : holds m)
    (step : ∀ m₁ ∈ m.trail s polls, ∀ m₂ ∈ m.trail s polls, ∀ poll ∈ polls,
      m₁.next s poll = some m₂ → holds m₁ → holds m₂) : ∀ m' ∈ m.trail s polls, holds m' := by
  induction polls generalizing m with
  | nil =>
    intro m' inside
    obtain rfl := List.mem_singleton.mp inside
    exact start
  | cons poll rest ih =>
    intro m' inside
    cases turn : m.next s poll with
    | none =>
      rw [trail,turn] at inside
      obtain rfl := List.mem_singleton.mp inside
      exact start
    | some m₁ =>
      rw [trail,turn] at inside step
      rcases List.mem_cons.mp inside with rfl | later
      · exact start
      · obtain ⟨others,shape⟩ := trailHead s m₁ rest
        have first : m₁ ∈ m₁.trail s rest := by rw [shape]; exact List.mem_cons_self
        have next := step m List.mem_cons_self m₁ (List.mem_cons_of_mem _ first) poll List.mem_cons_self
          turn start
        exact ih next (fun m₂ here m₃ there poll' given => step m₂ (List.mem_cons_of_mem _ here) m₃
          (List.mem_cons_of_mem _ there) poll' (List.mem_cons_of_mem _ given)) m' later

theorem trailKeeps (s : Surroundings (κ × Signals)) (m : Moment κ) (polls : List Poll) :
    ∀ m' ∈ m.trail s polls,
      m'.reader = { m.reader with editor := m'.reader.editor, display := m'.reader.display } := by
  refine trailAll rfl fun m₁ _ m₂ _ poll _ step kept => ?_
  have changed := nextKeeps step
  rw [kept] at changed
  exact changed

theorem goingCalm {signals : Signals}
    (going : ¬ (signals.pendingTermination.isSome = true ∨ signals.abort = true)) :
    signals.pendingTermination = none ∧ signals.takeAbort.2 = false := by
  simp only [not_or,Bool.not_eq_true,Option.isSome_eq_false_iff,Option.isNone_iff_eq_none] at going
  exact going

/-! ## One turn of the loop -/

theorem loopStops (s : Surroundings (κ × Signals)) (r : LineReader) {state : κ × Signals}
    (stops : state.2.pendingTermination.isSome = true ∨ state.2.abort = true) (pending : Text)
    (polls : List Poll) :
    (∃ signal, loop s r state pending polls =
      ⟨.ok (.terminated signal),r.clear.leave.1,[],pending ++ r.clear.leave.2,polls,state⟩) ∨
    (state.2.abort = true ∧ loop s r state pending polls = ⟨.ok .interrupted,r.clear.leave.1,[],
      pending ++ r.clear.leave.2,polls,(state.1,state.2.takeAbort.1)⟩) := by
  obtain ⟨k,signals⟩ := state
  rw [loop.eq_def]
  cases ends : signals.pendingTermination with
  | some signal =>
    simp only [ends]
    exact .inl ⟨signal,rfl⟩
  | none =>
    have aborts : signals.takeAbort.2 = true := by
      rcases stops with dead | aborts
      · simp [ends] at dead
      · exact aborts
    simp only [ends,aborts,if_true]
    exact .inr ⟨aborts,trivial⟩

section
variable {s : Surroundings (κ × Signals)} {r : LineReader} {k : κ} {signals : Signals}
  (going : ¬ (signals.pendingTermination.isSome = true ∨ signals.abort = true)) (pending : Text)
  (rest : List Poll)
include going

theorem loopOut : loop s r (k,signals) pending [] =
    ⟨.error .outOfEvents,r,[pending],[],[],(k,signals.takeAbort.1)⟩ := by
  obtain ⟨lives,waits⟩ := goingCalm going
  rw [loop.eq_def]
  simp only [lives,waits,Bool.false_eq_true,if_false]

theorem loopNothing : loop s r (k,signals) pending (.nothing :: rest) =
    loop.framed pending (loop s r (k,signals.takeAbort.1) [] rest) := by
  obtain ⟨lives,waits⟩ := goingCalm going
  rw [loop.eq_def]
  simp only [lives,waits,Bool.false_eq_true,if_false]

theorem loopSignal (n : Int) : loop s r (k,signals) pending (.signal n :: rest) = loop.framed pending
    (loop s r (k,if n = 2 then signals.takeAbort.1.interrupt.1 else (signals.takeAbort.1.terminate n).1) []
      rest) := by
  obtain ⟨lives,waits⟩ := goingCalm going
  rw [loop.eq_def]
  simp only [lives,waits,Bool.false_eq_true,if_false]

theorem loopLost {event : Event} (lost : r.handle s (k,signals.takeAbort.1) event = none) :
    loop s r (k,signals) pending (.event event :: rest) =
      ⟨.error .offset,r,[pending],[],rest,(k,signals.takeAbort.1)⟩ := by
  obtain ⟨lives,waits⟩ := goingCalm going
  rw [loop.eq_def]
  simp only [lives,waits,Bool.false_eq_true,if_false,lost]

theorem loopHandles {event : Event} {o : Outcome} {e : Editor} {state : κ × Signals}
    (handled : r.handle s (k,signals.takeAbort.1) event = some (o,e,state)) :
    loop s r (k,signals) pending (.event event :: rest) =
      match o with
      | .ignored => loop.framed pending (loop s { r with editor := e } state [] rest)
      | .changed =>
          let (shown,out) := { r with editor := e }.redraw
          loop.framed pending (loop s shown state out rest)
      | .candidates l =>
          let (shown,out) := { r with editor := e }.showCandidates l
          loop.framed pending (loop s shown state out rest)
      | .submit line =>
          let (left,out) := { r with editor := e }.leave
          ⟨.ok (.line line),left,[pending],out,rest,state⟩
      | .endOfFile =>
          let (left,out) := { r with editor := e }.leave
          ⟨.ok .endOfFile,left,[pending],out,rest,state⟩
      | .abort =>
          let (left,out) := r.clear.leave
          ⟨.ok .interrupted,left,[pending],out,rest,state⟩ := by
  obtain ⟨lives,waits⟩ := goingCalm going
  rw [loop.eq_def]
  simp only [lives,waits,Bool.false_eq_true,if_false,handled]
  cases o <;> rfl

end

theorem loopNext {s : Surroundings (κ × Signals)} {m m' : Moment κ} {poll : Poll}
    (step : m.next s poll = some m') (pending : Text) (rest : List Poll) :
    ∃ out, m'.written = m.written ++ out ∧
      loop s m.reader m.state pending (poll :: rest) =
        loop.framed pending (loop s m'.reader m'.state out rest) := by
  obtain ⟨reader,⟨k,signals⟩,above,since⟩ := m
  unfold next at step
  split at step
  · contradiction
  · rename_i going
    cases poll with
    | nothing =>
      cases step
      exact ⟨[],(List.append_nil _).symm,loopNothing going pending rest⟩
    | signal n =>
      cases step
      exact ⟨[],(List.append_nil _).symm,loopSignal going pending rest n⟩
    | event event =>
      simp only [after] at step
      rcases handled : reader.handle s (k,signals.takeAbort.1) event with _ | ⟨outcome,editor,state⟩
      · rw [handled] at step
        contradiction
      · rw [handled] at step
        cases outcome with
        | ignored =>
          cases step
          exact ⟨[],(List.append_nil _).symm,loopHandles going pending rest handled⟩
        | changed =>
          cases step
          exact ⟨_,(List.append_assoc above since _).symm,loopHandles going pending rest handled⟩
        | candidates l =>
          cases step
          refine ⟨(showCandidates { reader with editor } l).2,?_,loopHandles going pending rest handled⟩
          simp only [written,showCandidates,List.append_assoc]
          rfl
        | submit t => contradiction
        | endOfFile => contradiction
        | abort => contradiction

def Hands (s : Surroundings (κ × Signals)) (m : Moment κ) : Prop :=
  ∀ event, ∃ o editor state,
    m.reader.handle s (m.state.1,m.state.2.takeAbort.1) event = some (o,editor,state) ∧
      ∀ t, o = .submit t → t = m.reader.editor.buffer.text

structure Ended (m : Moment κ) (pending : Text) (result : ReadResult κ) : Prop where
  frames : result.frames = [] ∨ result.frames = [pending] ∧ ¬ m.Stops
  total : result.outcome ≠ .error .offset
  below : ∀ o, result.outcome = .ok o →
    result.frames.flatten ++ result.out = pending ++ m.reader.display.leave.2
  line : ∀ t, result.outcome = .ok (.line t) → t = m.reader.editor.buffer.text

theorem loopWaits (s : Surroundings (κ × Signals)) {m : Moment κ} (going : ¬ m.Stops) (pending : Text) :
    (loop s m.reader m.state pending []).outcome = .error .outOfEvents ∧
      (loop s m.reader m.state pending []).reader = m.reader ∧
      (loop s m.reader m.state pending []).frames = [pending] := by
  obtain ⟨reader,⟨k,signals⟩,above,since⟩ := m
  rw [loopOut going]
  exact ⟨rfl,rfl,rfl⟩

theorem loopStopped (s : Surroundings (κ × Signals)) {m : Moment κ} (stops : m.Stops) (pending : Text)
    (polls : List Poll) : Ended m pending (loop s m.reader m.state pending polls) := by
  rcases loopStops s m.reader stops pending polls with ⟨signal,same⟩ | ⟨_,same⟩
  · rw [same]
    exact ⟨.inl rfl,nofun,fun _ _ => rfl,nofun⟩
  · rw [same]
    exact ⟨.inl rfl,nofun,fun _ _ => rfl,nofun⟩

theorem loopEnds {s : Surroundings (κ × Signals)} {m : Moment κ} {poll : Poll} (hands : m.Hands s)
    (step : m.next s poll = none) (pending : Text) (rest : List Poll) :
    Ended m pending (loop s m.reader m.state pending (poll :: rest)) := by
  by_cases stops : m.Stops
  · exact loopStopped s stops pending _
  · simp only [next,stops,if_false] at step
    have going := stops
    obtain ⟨reader,⟨k,signals⟩,above,since⟩ := m
    cases poll with
    | nothing => contradiction
    | signal n => contradiction
    | event event =>
      obtain ⟨outcome,editor,state,handled,handed⟩ := hands event
      have found : reader.handle s (k,signals.takeAbort.1) event = some (outcome,editor,state) := handled
      have closes : ∀ out : Text, [pending].flatten ++ out = pending ++ out := fun out => by simp
      simp only [after,found] at step
      rw [loopHandles going pending rest found]
      cases outcome with
      | ignored => contradiction
      | changed => contradiction
      | candidates l => contradiction
      | submit t =>
        refine ⟨.inr ⟨rfl,stops⟩,nofun,fun _ _ => closes _,?_⟩
        intro t' ok
        cases ok
        exact handed t rfl
      | endOfFile => exact ⟨.inr ⟨rfl,stops⟩,nofun,fun _ _ => closes _,nofun⟩
      | abort => exact ⟨.inr ⟨rfl,stops⟩,nofun,fun _ _ => closes _,nofun⟩

/- Every question of a reading belongs to one of the moments: the reading that is cut short there has
asked the same questions and holds the moment's reader. The last moment is the one it ends in. -/
structure Traces (s : Surroundings (κ × Signals)) (m : Moment κ) (polls : List Poll) (base pending : Text)
    (moments : List (Moment κ)) : Prop where
  asked : ∀ i < (loop s m.reader m.state pending polls).frames.length, ∃ m',
    moments[i]? = some m' ∧
    (loop s m.reader m.state pending (polls.take i)).outcome = .error .outOfEvents ∧
    (loop s m.reader m.state pending (polls.take i)).reader = m'.reader ∧
    m'.written = base ++ ((loop s m.reader m.state pending polls).frames.take (i + 1)).flatten
  ended : ∃ m', moments.getLast? = some m' ∧
    (loop s m.reader m.state pending polls).outcome ≠ .error .offset ∧
    (∀ o, (loop s m.reader m.state pending polls).outcome = .ok o →
      base ++ ((loop s m.reader m.state pending polls).frames.flatten ++
        (loop s m.reader m.state pending polls).out) = m'.written ++ m'.reader.display.leave.2) ∧
    ∀ t, (loop s m.reader m.state pending polls).outcome = .ok (.line t) →
      t = m'.reader.editor.buffer.text

theorem endedTraces {s : Surroundings (κ × Signals)} {m : Moment κ} {polls : List Poll}
    {base pending : Text} (total : m.written = base ++ pending)
    (ended : Ended m pending (loop s m.reader m.state pending polls)) :
    Traces s m polls base pending [m] := by
  refine ⟨?_,m,rfl,ended.total,?_,ended.line⟩
  · intro i asked
    rcases ended.frames with none | ⟨one,going⟩
    · rw [none] at asked
      contradiction
    · rw [one] at asked ⊢
      obtain rfl : i = 0 := Nat.lt_one_iff.mp asked
      obtain ⟨outcome,reader,_⟩ := loopWaits s going pending
      exact ⟨m,rfl,outcome,reader,by simp [total]⟩
  · intro o ok
    rw [ended.below o ok,total,List.append_assoc]

theorem loopTrail {s : Surroundings (κ × Signals)} {m : Moment κ} {polls : List Poll}
    (hands : ∀ m' ∈ m.trail s polls, m'.Hands s) {base pending : Text}
    (total : m.written = base ++ pending) : Traces s m polls base pending (m.trail s polls) := by
  -- what the turn was begun with is its one frame, and the next moment is begun with the turn's output
  induction polls generalizing m base pending with
  | nil =>
    by_cases stops : m.Stops
    · exact endedTraces total (loopStopped s stops pending [])
    · obtain ⟨outcome,reader,frames⟩ := loopWaits s stops pending
      exact endedTraces total ⟨.inr ⟨frames,stops⟩,by rw [outcome]; exact nofun,by rw [outcome]; exact nofun,
        by rw [outcome]; exact nofun⟩
  | cons poll rest ih =>
    cases step : m.next s poll with
    | none =>
      have only : m.trail s (poll :: rest) = [m] := by rw [trail,step]
      rw [only] at hands ⊢
      exact endedTraces total (loopEnds (hands m List.mem_cons_self) step pending rest)
    | some m' =>
      have going : ¬ m.Stops := by
        intro stops
        rw [next,if_pos stops] at step
        contradiction
      have more : m.trail s (poll :: rest) = m :: m'.trail s rest := by rw [trail,step]
      rw [more] at hands ⊢
      obtain ⟨out,written,turn⟩ := loopNext step pending rest
      have hands' : ∀ m'' ∈ m'.trail s rest, m''.Hands s :=
        fun m'' inside => hands m'' (List.mem_cons_of_mem _ inside)
      have total' : m'.written = (base ++ pending) ++ out := by rw [written,total]
      obtain ⟨asked,last,final,offset,below,line⟩ := ih hands' total'
      refine ⟨?_,last,?_,?_,?_,?_⟩
      · intro i inside
        cases i with
        | zero =>
          obtain ⟨outcome,reader,_⟩ := loopWaits s going pending
          refine ⟨m,rfl,outcome,reader,?_⟩
          rw [turn,total]
          simp [loop.framed]
        | succ i =>
          rw [turn] at inside ⊢
          obtain ⟨m'',there,outcome,reader,whole⟩ := asked i (Nat.lt_of_succ_lt_succ inside)
          obtain ⟨out',written',turn'⟩ := loopNext step pending (rest.take i)
          obtain rfl : out' = out := List.append_cancel_left (written'.symm.trans written)
          refine ⟨m'',there,?_,?_,?_⟩
          · rw [List.take_succ_cons,turn']
            exact outcome
          · rw [List.take_succ_cons,turn']
            exact reader
          · rw [whole]
            simp [loop.framed]
      · obtain ⟨others,shape⟩ := trailHead s m' rest
        rw [shape] at final ⊢
        rw [List.getLast?_cons_cons]
        exact final
      · rw [turn]
        exact offset
      · intro o ok
        rw [turn] at ok ⊢
        rw [← below o ok]
        simp [loop.framed]
      · intro t ok
        rw [turn] at ok
        exact line t ok

end Moment

theorem takenOutcome {ε α : Type} {x : Except ε α} {a : α} (taken : x.toOption = some a) : x = .ok a := by
  cases x with
  | error e => contradiction
  | ok b => exact congrArg Except.ok (Option.some.inj taken)

end ScriptConsole.LineReader
