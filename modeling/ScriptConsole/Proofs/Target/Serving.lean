import ScriptConsole.Target.Agent
import ScriptConsole.Proofs.Target.Exchange
import ScriptConsole.Proofs.Wire.Requests

/-! What an agent makes of the bytes that reach it. Each whole request at their front is evaluated once
and answered with one frame; the bytes behind decide how the serving ends. The peer takes every
answer: how a failing write ends the serving is not covered. -/
namespace ScriptConsole

structure Evaluator.Notes {σ : Type} (E : Evaluator σ) (note : σ → List Text) : Prop where
  evaluate : ∀ state signals source, note (E.evaluate state signals source).2.1 = note state ++ [source]
  collect : ∀ state, note (E.collectGarbage state) = note state
  reset : ∀ state, note (E.reset state).2 = note state

namespace Agent
open Channel (Sendable)
open ScriptConsole.Frame
variable {σ : Type}

def payload (value : Option Text) : Option Bytes := value.map Utf8.encode

def answerBytes (values : List (Option Text)) : Bytes :=
  values.flatMap fun value => frameBytes (payload value)

def answers (E : Evaluator σ) (state : σ) (signals : Signals) : List Text → List (Option Text) × σ
  | [] => ([],state)
  | source :: rest =>
      let (value,state,signals) := E.evaluate state (signals.withMode .evaluating).clearCancel source
      let (values,state) := answers E state signals rest
      (value :: values,state)

theorem answersSignals (E : Evaluator σ) (state : σ) {a b : Signals} (sources : List Text)
    (same : (a.withMode .evaluating).clearCancel = (b.withMode .evaluating).clearCancel) :
    answers E state a sources = answers E state b sources := by
  cases sources with
  | nil => rfl
  | cons source rest => simp only [answers,same]

theorem answersLength (E : Evaluator σ) (state : σ) (signals : Signals) (sources : List Text) :
    (answers E state signals sources).1.length = sources.length := by
  induction sources generalizing state signals with
  | nil => rfl
  | cons source rest ih => simp only [answers,List.length_cons,ih]

theorem answersNoted {E : Evaluator σ} {note : σ → List Text} (notes : E.Notes note) (state : σ)
    (signals : Signals) (sources : List Text) :
    note (answers E state signals sources).2 = note state ++ sources := by
  induction sources generalizing state signals with
  | nil => simp [answers]
  | cons source rest ih => simp only [answers,ih,notes.evaluate,List.append_assoc,List.singleton_append]

/-! ## One request -/

theorem takesAll {s : Stream} (open' : s.room = none) (n : Nat) : s.Takes n := by
  intro room h
  rw [open'] at h
  contradiction

theorem sentOpen {s s' : Stream} {b : Bytes} (sent : s.Sent s' b) (open' : s.room = none) :
    s'.room = none := by rw [sent.room,open']; rfl

theorem payloadFits {value : Option Text} (small : ∀ t, value = some t → Sendable t) :
    Fits (payload value) := by
  intro p h
  obtain ⟨t,found,rfl⟩ := Option.map_eq_some_iff.mp h
  exact small t found

theorem answerSent {s : Stream} {value : Option Text} (open' : s.room = none)
    (fits : ∀ t, value = some t → Sendable t) :
    ∃ s', answer s value = (.ok (),s') ∧ s.Sent s' (frameBytes (payload value)) := by
  cases value with
  | none => exact writeNoValueSent .idle (takesAll open' 4)
  | some t => exact writeSent .idle (fits t rfl) (takesAll open' _)

theorem serveStep {E : Evaluator σ} (served : Nat) {state next : σ} {s : Stream}
    {signals after : Signals} {p : Bytes} {value : Option Text} {rest : Bytes} {later : List Bytes}
    (open' : s.room = none) (request : Fits (some p)) (fits : ∀ t, value = some t → Sendable t)
    (run : E.evaluate state (signals.withMode .evaluating).clearCancel (Utf8.decodeLossy p) =
      (value,next,after))
    (h : segments s.arrivals = (frameBytes (some p) ++ rest) :: later) :
    ∃ s', serveFrom E served state s signals = serveFrom E (served + 1) next s' (after.withMode .idle) ∧
      s'.room = none ∧ segments s'.arrivals = rest :: later ∧
      s'.written = s.written ++ frameBytes (payload value) := by
  obtain ⟨s₁,read,got⟩ := readRequestFrame signals.mode h (frameBack request rest)
  obtain ⟨s₂,write,sent⟩ := answerSent (got.room.trans open') fits
  refine ⟨s₂,?_,sentOpen sent (got.room.trans open'),?_,?_⟩
  · have entered : signals.clearCancel.withMode .evaluating =
        (signals.withMode .evaluating).clearCancel := rfl
    have answered : answer s₁ (E.evaluate state (signals.clearCancel.withMode .evaluating)
        (Utf8.decodeLossy p)).1 = (.ok (),s₂) := by
      rw [entered,run]; exact write
    rw [serveFrom]
    split
    · rename_i eq; rw [read] at eq; cases eq
    · rename_i eq; rw [read] at eq; cases eq
    · rename_i eq
      rw [read] at eq
      cases eq
      simp only [entered,run]
      split
      · rename_i eq; cases eq.symm.trans answered
      · rename_i eq; cases eq.symm.trans answered; rfl
  · rw [sent.arrivals,got.segments]
  · rw [sent.written,got.written]

/-! ## The whole stream -/

theorem serveEnd (E : Evaluator σ) (served : Nat) (state : σ) {s : Stream} (signals : Signals) {rest : Bytes}
    (h : segments s.arrivals = [rest]) (stuck : Stuck rest) :
    (serveFrom E served state s signals).result = (requestEnd rest).map (fun _ => served) ∧
      (serveFrom E served state s signals).state = state ∧
      (serveFrom E served state s signals).stream.written = s.written := by
  obtain ⟨s',read,written⟩ := readRequestStuck signals.mode h stuck
  rw [serveFrom]
  split
  · rename_i eq
    rw [read] at eq
    cases ending : requestEnd rest <;> rw [ending] at eq <;> cases eq
    exact ⟨rfl,rfl,written⟩
  · rename_i eq
    rw [read] at eq
    cases ending : requestEnd rest <;> rw [ending] at eq <;> cases eq
    exact ⟨rfl,rfl,written⟩
  · rename_i eq
    rw [read] at eq
    cases ending : requestEnd rest <;> rw [ending] at eq <;> cases eq

theorem serveRun {E : Evaluator σ} (served : Nat) (state : σ) {s : Stream} (signals : Signals)
    {payloads : List Bytes} {rest : Bytes} (open' : s.room = none)
    (requests : ∀ p ∈ payloads, Fits (some p)) (stuck : Stuck rest)
    (fits : ∀ t, some t ∈ (answers E state signals (payloads.map Utf8.decodeLossy)).1 → Sendable t)
    (h : segments s.arrivals = [framesBytes payloads ++ rest]) :
    (serveFrom E served state s signals).result =
        (requestEnd rest).map (fun _ => served + payloads.length) ∧
      (serveFrom E served state s signals).state =
        (answers E state signals (payloads.map Utf8.decodeLossy)).2 ∧
      (serveFrom E served state s signals).stream.written =
        s.written ++ answerBytes (answers E state signals (payloads.map Utf8.decodeLossy)).1 := by
  -- the agent goes idle between requests, so the signals differ from those of `answers` in the mode
  induction payloads generalizing served state s signals with
  | nil =>
    obtain ⟨result,left,wrote⟩ := serveEnd E served state signals h stuck
    exact ⟨result,left,by rw [wrote,List.map_nil,answers,answerBytes,List.flatMap_nil,List.append_nil]⟩
  | cons p others ih =>
    rcases run : E.evaluate state (signals.withMode .evaluating).clearCancel (Utf8.decodeLossy p) with
      ⟨value,next,after⟩
    have kept := answersSignals E next (a := after.withMode .idle) (b := after)
      (others.map Utf8.decodeLossy) rfl
    have first : answers E state signals ((p :: others).map Utf8.decodeLossy) =
        (value :: (answers E next after (others.map Utf8.decodeLossy)).1,
          (answers E next after (others.map Utf8.decodeLossy)).2) := by
      simp only [List.map_cons,answers,run]
    rw [first] at fits ⊢
    rw [framesBytes,List.flatMap_cons,List.append_assoc] at h
    obtain ⟨s',step,opened,left,wrote⟩ := serveStep served open' (requests p List.mem_cons_self)
      (fun t here => fits t (by rw [here]; exact List.mem_cons_self)) run h
    obtain ⟨result,state',written⟩ := ih (served + 1) next (after.withMode .idle) opened
      (fun q inside => requests q (List.mem_cons_of_mem _ inside))
      (fun t inside => fits t (List.mem_cons_of_mem _ (by rwa [kept] at inside))) left
    rw [step]
    refine ⟨?_,by rw [state',kept],?_⟩
    · rw [result,List.length_cons,Nat.add_assoc,Nat.add_comm 1]
    · rw [written,wrote,kept,List.append_assoc,answerBytes,answerBytes,List.flatMap_cons]

structure Accepts (E : Evaluator σ) (state : σ) (signals : Signals) (payloads : List Bytes) (rest : Bytes)
    (done : Served σ) : Prop where
  left : done.state = (answers E state signals (payloads.map Utf8.decodeLossy)).2
  noted : ∀ note, E.Notes note → note done.state = note state ++ payloads.map Utf8.decodeLossy
  written : done.stream.written = answerBytes (answers E state signals (payloads.map Utf8.decodeLossy)).1
  hangup : ∀ n, done.result = .ok n ↔ rest = [] ∧ n = payloads.length
  marker : done.result = .error .valuelessRequest ↔ [255,255,255,255] <+: rest
  cut : done.result = .error .closed ↔ rest ≠ [] ∧ ¬ [255,255,255,255] <+: rest

/- The bytes have one such front, so this says what comes of every stream of bytes. -/
theorem serveAccepts (E : Evaluator σ) (state : σ) (signals : Signals) {arrivals : List Arrival}
    (quiet : Quiet arrivals) :
    (∃ payloads rest, Fronted (content arrivals) payloads rest) ∧
      ∀ payloads rest, Fronted (content arrivals) payloads rest →
        (∀ t, some t ∈ (answers E state signals (payloads.map Utf8.decodeLossy)).1 → Sendable t) →
        Accepts E state signals payloads rest (serve E state { arrivals } signals) := by
  refine ⟨frontExists (content arrivals),fun payloads rest fronted small => ?_⟩
  have whole := quietSegments quiet
  rw [fronted.whole] at whole
  obtain ⟨result,left,wrote⟩ := serveRun 0 state (s := { arrivals }) signals rfl fronted.fits fronted.stuck
    small whole
  rw [Nat.zero_add] at result
  have marker : lengthBytes noValue = [255,255,255,255] := by decide
  refine ⟨left,fun note notes => (congrArg note left).trans (answersNoted notes state signals _),
    wrote.trans (List.nil_append _),fun n => ?_,?_,?_⟩
  all_goals
    rw [serve,result,requestEnd,marker]
    by_cases none : rest = []
    · simp [Except.map,none,eq_comm (b := payloads.length)]
    · by_cases leads : [255,255,255,255] <+: rest <;> simp [Except.map,none,leads]

def keeping : Evaluator (List Text) where
  evaluate kept signals source := (if source = [] then none else some source,kept ++ [source],signals)
  collectGarbage kept := kept
  reset kept := (.ok (),kept)

theorem keepingNotes : keeping.Notes id := ⟨fun _ _ _ => rfl,fun _ => rfl,fun _ => rfl⟩

def brokenRequests : List Arrival :=
  [.bytes [1,0],.fault .interrupted,.bytes [0,0,97,0,0,0,0,1],.bytes [0,0,0,255,2],.fault .interrupted,
    .bytes [0]]

theorem brokenDecoded : [[97],[],[255]].map Utf8.decodeLossy = [['a'],[],['\uFFFD']] := by
  simp [Utf8.decodeLossy,Utf8.decode]

theorem serveAcceptsBroken :
    (serve keeping [] { arrivals := brokenRequests } {}).state = [['a'],[],['\uFFFD']] ∧
      (serve keeping [] { arrivals := brokenRequests } {}).result = .error .closed ∧
      (serve keeping [] { arrivals := brokenRequests } {}).stream.written =
        [1,0,0,0,97,255,255,255,255,3,0,0,0,239,191,189] := by
  have quiet : Quiet brokenRequests := by
    intro e inside
    simpa [brokenRequests] using inside
  have fronted : Fronted (content brokenRequests) [[97],[],[255]] [2,0] := by
    refine ⟨by decide,?_,stuckIff.mpr fun _ _ => nofun⟩
    intro p inside q same
    cases same
    rcases inside with _ | ⟨_,_ | ⟨_,_ | ⟨_,inside⟩⟩⟩ <;> first | decide | cases inside
  have values : (answers keeping [] {} ([[97],[],[255]].map Utf8.decodeLossy)).1 =
      [some ['a'],none,some ['\uFFFD']] := by
    rw [brokenDecoded]
    rfl
  have small : ∀ t, some t ∈ (answers keeping [] {} ([[97],[],[255]].map Utf8.decodeLossy)).1 → Sendable t := by
    intro t inside
    rw [values] at inside
    rcases inside with _ | ⟨_,_ | ⟨_,_ | ⟨_,inside⟩⟩⟩ <;> first | decide | cases inside
  have accepts := (serveAccepts keeping [] {} quiet).2 [[97],[],[255]] [2,0] fronted small
  exact ⟨(accepts.noted id keepingNotes).trans (congrArg ([] ++ ·) brokenDecoded),
    accepts.cut.mpr (by decide),accepts.written.trans (by rw [values]; decide)⟩

end Agent
end ScriptConsole
