import ScriptConsole.Console.Session
import ScriptConsole.Proofs.Edit.Waiting

/-! A run of the console as the turns of its loop. A turn whose reading is refused raw mode is the last.
Each turn that leads to another uses up an event, or the request to abort that was there before, so a run
has fewer turns than it has fuel and ends where its last turn does. -/
namespace ScriptConsole.Console
open LineReader

variable {σ : Type}

def surroundings (c : Console σ) : Surroundings (Target σ × Signals) :=
  ⟨c.language,c.history.entries,completer c.channel.evaluator,c.switches.bypass⟩

structure Turn (σ : Type) where
  console : Console σ
  raw : RawMode
  signals : Signals
  polls : List Poll

namespace Turn

def refused? (t : Turn σ) : Option Text := t.raw.enter.1

def afterRefusal (t : Turn σ) : Turn σ := { t with signals := t.signals.withMode .awaitingInput }

def reading (t : Turn σ) : ReadResult (Target σ) :=
  t.console.reader.readLine t.console.surroundings
    (t.console.channel.target,t.signals.withMode .awaitingInput) t.polls

def moments (t : Turn σ) : List (Moment (Target σ)) :=
  if t.refused?.isSome then []
  else (Moment.opening t.console.reader (t.console.channel.target,t.signals.withMode .awaitingInput)).trail
    t.console.surroundings t.polls

def afterReading (t : Turn σ) : Turn σ where
  console := { t.console with
    reader := t.reading.reader, channel := { t.console.channel with target := t.reading.state.1 } }
  raw := t.raw.enter.2
  signals := t.reading.state.2.withMode .idle
  polls := t.reading.rest

theorem readUnitParts (t : Turn σ) : t.console.readUnit t.signals t.polls =
    (t.reading,t.afterReading.console,t.afterReading.signals) := rfl

def handled (t : Turn σ) (line : Text) : Handled σ :=
  t.afterReading.console.handleLine t.afterReading.signals line

def afterLine (t : Turn σ) (line : Text) : Turn σ :=
  ⟨(t.handled line).console,t.afterReading.raw,(t.handled line).signals,t.afterReading.polls⟩

def readEnded (t : Turn σ) : Except RunError Flow × Turn σ :=
  match t.reading.outcome with
  | .error .outOfEvents => (.error .outOfEvents,t.afterReading)
  | .error .offset => (.error .offset,t.afterReading)
  | .ok .endOfFile | .ok (.terminated _) => (.ok .exit,t.afterReading)
  | .ok .interrupted => (.ok .goOn,t.afterReading)
  | .ok (.line line) => ((t.handled line).flow,t.afterLine line)

def ended (t : Turn σ) : Except RunError Flow × Turn σ :=
  match t.refused? with
  | some reason => (.error (.rawMode reason),t.afterRefusal)
  | none => t.readEnded

def next (t : Turn σ) : Option (Turn σ) :=
  match t.ended with
  | (.ok .goOn,later) => some later
  | _ => none

def weight (t : Turn σ) : Nat := 2 * t.polls.length + if t.signals.abort then 1 else 0

theorem readingKeeps (t : Turn σ) {holds : Target σ × Signals → Prop}
    (survives : Survives t.console.surroundings holds)
    (start : holds (t.console.channel.target,t.signals.withMode .awaitingInput)) :
    holds t.reading.state ∧ Left t.signals.abort t.polls t.reading :=
  survives.read _ _ _ t.polls start

theorem momentsKeep (t : Turn σ) {holds : Target σ × Signals → Prop}
    (survives : Survives t.console.surroundings holds)
    (start : holds (t.console.channel.target,t.signals.withMode .awaitingInput)) :
    ∀ m ∈ t.moments, holds m.state := by
  unfold moments
  split
  · exact fun _ inside => absurd inside List.not_mem_nil
  · exact survives.trail start

theorem endedRefused {t : Turn σ} {reason : Text} (refused : t.refused? = some reason) :
    t.ended = (.error (.rawMode reason),t.afterRefusal) := by
  rw [ended,refused]

theorem endedRead {t : Turn σ} (entered : t.refused? = none) : t.ended = t.readEnded := by
  rw [ended,entered]

theorem readEndedLine {t : Turn σ} {line : Text} (outcome : t.reading.outcome = .ok (.line line)) :
    t.readEnded = ((t.handled line).flow,t.afterLine line) := by
  rw [readEnded,outcome]

theorem nextEnded {t t' : Turn σ} (step : t.next = some t') : t.ended = (.ok .goOn,t') := by
  unfold next at step
  split at step
  · cases step; assumption
  · contradiction

theorem nextRead {t t' : Turn σ} (step : t.next = some t') :
    t.refused? = none ∧ t.readEnded = (.ok .goOn,t') := by
  have ends := nextEnded step
  cases refused : t.refused? with
  | some reason =>
    rw [endedRefused refused] at ends
    cases ends
  | none =>
    rw [endedRead refused] at ends
    exact ⟨rfl,ends⟩

theorem nextLighter {t t' : Turn σ} (step : t.next = some t') : t'.weight < t.weight := by
  have always : Survives t.console.surroundings fun _ => True :=
    ⟨fun _ _ _ => trivial,fun _ _ _ => trivial,fun _ _ _ _ => trivial,fun _ _ _ _ => trivial⟩
  have left := (t.readingKeeps always trivial).2
  have ended := (nextRead step).2
  unfold readEnded at ended
  split at ended
  case h_1 | h_2 | h_3 | h_4 => cases ended
  case h_5 outcome =>
    cases ended
    rcases left.interrupted outcome with fewer | ⟨same,aborted,taken⟩
    · unfold weight afterReading
      dsimp only
      split <;> split <;> omega
    · have quiet : t.afterReading.signals.abort = false := taken
      have polls : t.afterReading.polls = t.polls := same
      simp [weight,aborted,quiet,polls]
  case h_6 line outcome =>
    have fewer := left.line line outcome
    simp only [Prod.mk.injEq] at ended
    obtain ⟨_,rfl⟩ := ended
    have polls : (t.afterLine line).polls = t.reading.rest := rfl
    unfold weight
    rw [polls]
    split <;> split <;> omega

def turns (t : Turn σ) : List (Turn σ) :=
  t :: match _step : t.next with
  | none => []
  | some later => later.turns
termination_by t.weight
decreasing_by exact nextLighter _step

theorem turnsNext {t t' : Turn σ} (step : t.next = some t') : t.turns = t :: t'.turns := by
  rw [turns]
  split
  · rw [step] at *; contradiction
  · rename_i later found
    rw [step] at found
    cases found
    rfl

theorem turnsLast {t : Turn σ} (step : t.next = none) : t.turns = [t] := by
  rw [turns]
  split
  · rfl
  · rw [step] at *; contradiction

theorem turnsHead (t : Turn σ) : t ∈ t.turns := by
  rw [turns]
  exact List.mem_cons_self

theorem turnsAll {holds : Turn σ → Prop} (step : ∀ t t', t.next = some t' → holds t → holds t') {t : Turn σ}
    (start : holds t) : ∀ t' ∈ t.turns, holds t' := by
  induction t using turns.induct with
  | case1 t ih =>
    intro t' inside
    cases found : t.next with
    | none =>
      rw [turnsLast found] at inside
      rw [List.mem_singleton.mp inside]
      exact start
    | some later =>
      rw [turnsNext found] at inside
      rcases List.mem_cons.mp inside with rfl | there
      · exact start
      · exact ih later found (step t later found start) t' there

theorem enterRead {t : Turn σ} (entered : t.refused? = none) : t.raw.enter = (none,t.afterReading.raw) :=
  Prod.ext entered rfl

theorem runGoesOn {t t' : Turn σ} (step : t.next = some t') (fuel : Nat) (pending : Text) :
    ∃ frames printed out, runFrom (fuel + 1) t.console t.raw t.signals pending t.polls =
      runFrom.after frames printed (runFrom fuel t'.console t'.raw t'.signals out t'.polls) := by
  obtain ⟨entered,ended⟩ := nextRead step
  unfold readEnded at ended
  rw [runFrom,enterRead entered]
  dsimp only
  rw [readUnitParts]
  split at ended
  case h_1 | h_2 | h_3 | h_4 => cases ended
  case h_5 outcome =>
    cases ended
    simp only [outcome]
    exact ⟨_,_,_,rfl⟩
  case h_6 line outcome =>
    simp only [Prod.mk.injEq] at ended
    obtain ⟨flow,rfl⟩ := ended
    rw [handled] at flow
    simp only [outcome,flow]
    exact ⟨_,_,_,rfl⟩

structure Closes (last : Turn σ) (ran : Ran σ) : Prop where
  result : ran.result = last.ended.1.map fun _ => ()
  console : ran.console = last.ended.2.console
  signals : ran.signals = last.ended.2.signals
  rest : ran.rest = last.ended.2.polls

theorem closesRefused {t : Turn σ} {reason : Text} (refused : t.refused? = some reason) (fuel : Nat)
    (pending : Text) : t.Closes (runFrom (fuel + 1) t.console t.raw t.signals pending t.polls) := by
  have enter : t.raw.enter = (some reason,t.raw.enter.2) := Prod.ext refused rfl
  rw [runFrom,enter]
  constructor <;> rw [endedRefused refused] <;> rfl

theorem closesRead {t : Turn σ} (entered : t.refused? = none)
    (stops : ∀ later, t.readEnded ≠ (.ok .goOn,later)) (fuel : Nat) (pending : Text) :
    t.Closes (runFrom (fuel + 1) t.console t.raw t.signals pending t.polls) := by
  have ends := endedRead entered
  rw [runFrom,enterRead entered]
  dsimp only
  rw [readUnitParts]
  cases outcome : t.reading.outcome with
  | error failure =>
    cases failure <;> dsimp only <;> constructor <;> rw [ends] <;>
      simp only [readEnded,outcome] <;> rfl
  | ok read =>
    cases read with
    | endOfFile | terminated n =>
      dsimp only
      constructor <;> rw [ends] <;> simp only [readEnded,outcome] <;> rfl
    | interrupted => exact (stops t.afterReading (by rw [readEnded,outcome])).elim
    | line line =>
      have going := stops (t.afterLine line)
      have whole := ends.trans (readEndedLine outcome)
      dsimp only
      rcases flow : (t.afterReading.console.handleLine t.afterReading.signals line).flow with e | _ | _
      · constructor <;> rw [whole] <;> simp only [handled,flow] <;> rfl
      · exact (going (by rw [readEndedLine outcome,handled,flow])).elim
      · constructor <;> rw [whole] <;> simp only [handled,flow] <;> rfl

theorem runStops {t : Turn σ} (step : t.next = none) (fuel : Nat) (pending : Text) :
    t.Closes (runFrom (fuel + 1) t.console t.raw t.signals pending t.polls) := by
  cases refused : t.refused? with
  | some reason => exact closesRefused refused fuel pending
  | none =>
    refine closesRead refused (fun later going => ?_) fuel pending
    rw [next,endedRead refused,going] at step
    contradiction

theorem runTurns {t : Turn σ} {fuel : Nat} (enough : t.weight < fuel) (pending : Text) :
    ∃ last ∈ t.turns, last.next = none ∧
      last.Closes (runFrom fuel t.console t.raw t.signals pending t.polls) := by
  induction fuel generalizing t pending with
  | zero => contradiction
  | succ fuel ih =>
    cases step : t.next with
    | none => exact ⟨t,t.turnsHead,step,runStops step fuel pending⟩
    | some t' =>
      have lighter := nextLighter step
      obtain ⟨frames,printed,out,ran⟩ := runGoesOn step fuel pending
      have enough' : t'.weight < fuel := by omega
      obtain ⟨last,inside,stops,closes⟩ := ih enough' out
      refine ⟨last,?_,stops,?_⟩
      · rw [turnsNext step]
        exact List.mem_cons_of_mem _ inside
      · rw [ran]
        exact ⟨closes.result,closes.console,closes.signals,closes.rest⟩

end Turn
end ScriptConsole.Console
