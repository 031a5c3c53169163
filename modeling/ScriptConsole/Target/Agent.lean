import ScriptConsole.Target.Evaluator
import ScriptConsole.Wire.Frame

/-!
The other end of the protocol: every request is evaluated and answered with its value or with the
marker for none, until the console hangs up. -/
namespace ScriptConsole.Agent

structure Served (σ : Type) where
  result : Except ChannelError Nat
  state : σ
  stream : Stream
  signals : Signals

theorem readBytesPending (s : Stream) (mode : Mode) (n : Nat) :
    (s.readBytes mode n).1.length + pendingBytes (s.readBytes mode n).2.2.arrivals ≤
      pendingBytes s.arrivals := gatherLength n s.arrivals

theorem readRequestPending {s s' : Stream} {mode : Mode} {payload : Bytes}
    (h : Frame.readRequest s mode = (.ok (some payload), s')) :
    pendingBytes s'.arrivals < pendingBytes s.arrivals := by
  unfold Frame.readRequest at h
  have header := readBytesPending s mode 4
  have full : (s.readBytes mode 4).2.1 = .complete → (s.readBytes mode 4).1.length = 4 :=
    gatherComplete 4 s.arrivals
  split at h
  · simp at h
  · simp at h
  · simp at h
  · rename_i b t eq
    rw [eq] at header full
    split at h
    · simp at h
    · have body := readBytesPending t mode (Frame.lengthOf b)
      unfold Frame.readPayload at h
      have := full rfl
      split at h
      · rename_i x y p
        split at p
        · rename_i c u q
          rw [q] at body
          simp only [Prod.mk.injEq] at p h
          simp only at header body this
          rw [← h.2, ← p.2]; omega
        · simp at p
        · simp at p
      · simp at h

def answer (s : Stream) : Option Text → Except ChannelError Unit × Stream
  | some value => Frame.write s .idle (Utf8.encode value)
  | none => Frame.writeNoValue s .idle

theorem useArrivals (s : Stream) (a : Access) : (s.use a).arrivals = s.arrivals := by
  unfold Stream.use; split <;> rfl

theorem writeBytesArrivals (s : Stream) (mode : Mode) (b : Bytes) :
    (s.writeBytes mode b).2.arrivals = s.arrivals := by
  unfold Stream.writeBytes
  by_cases hb : b.isEmpty
  · simp [hb]
  · simp only [hb]
    cases s.use (.write mode) |>.room <;> simp [useArrivals]

theorem writeArrivals (s : Stream) (mode : Mode) (payload : Bytes) :
    (Frame.write s mode payload).2.arrivals = s.arrivals := by
  unfold Frame.write
  cases Frame.encode? payload with
  | error e => rfl
  | ok pair =>
      obtain ⟨header, payload⟩ := pair
      have first := writeBytesArrivals s mode header
      rcases hw : s.writeBytes mode header with ⟨result, t⟩
      rw [hw] at first
      cases result with
      | error e => simpa [hw] using first
      | ok u =>
          have second := writeBytesArrivals t mode payload
          rcases hp : t.writeBytes mode payload with ⟨result, t'⟩
          rw [hp] at second
          cases result <;> simp_all

theorem writeNoValueArrivals (s : Stream) (mode : Mode) :
    (Frame.writeNoValue s mode).2.arrivals = s.arrivals := by
  have h := writeBytesArrivals s mode (Frame.lengthBytes Frame.noValue)
  unfold Frame.writeNoValue
  rcases hw : s.writeBytes mode (Frame.lengthBytes Frame.noValue) with ⟨result, t⟩
  rw [hw] at h
  cases result <;> simpa [hw] using h

theorem answerArrivals (s : Stream) (value : Option Text) :
    (answer s value).2.arrivals = s.arrivals := by
  cases value with
  | none => exact writeNoValueArrivals s .idle
  | some value => exact writeArrivals s .idle (Utf8.encode value)

/- Serves a stream; `served` requests have been answered before. -/
def serveFrom {σ : Type} (evaluator : Evaluator σ) (served : Nat) (state : σ) (s : Stream)
    (signals : Signals) : Served σ :=
  match _h : Frame.readRequest s signals.mode with
  | (.error e, s) => ⟨.error e, state, s, signals⟩
  | (.ok none, s) => ⟨.ok served, state, s, signals⟩
  | (.ok (some request), after) =>
      let (value, state, signals) :=
        evaluator.evaluate state (signals.clearCancel.withMode .evaluating)
          (Utf8.decodeLossy request)
      let signals := signals.withMode .idle
      match hw : answer after value with
      | (.error e, s) => ⟨.error e, state, s, signals⟩
      | (.ok (), s) => serveFrom evaluator (served + 1) state s signals
  termination_by pendingBytes s.arrivals
  decreasing_by
    have kept := answerArrivals after value
    rw [hw] at kept
    simp only at kept
    rw [kept]
    exact readRequestPending _h

def serve {σ : Type} (evaluator : Evaluator σ) (state : σ) (s : Stream) (signals : Signals) :
    Served σ := serveFrom evaluator 0 state s signals

end ScriptConsole.Agent
