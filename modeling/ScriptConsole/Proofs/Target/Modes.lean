import ScriptConsole.Target.Names

/-! The modes of the signals in and around an exchange with the target, and what the target is put
through: evaluations entered with nothing to cancel, writes while a request is sent and reads while
the response is awaited. -/
namespace ScriptConsole

/-! ## Interrupts -/

namespace Signals

theorem interruptIgnored {s : Signals} (ignores : s.mode.interruptAction = .ignore) :
    s.interrupt = (s,.ignore) := by
  simp only [interrupt,ignores]

def interrupts : Nat → Signals → Signals
  | 0,s => s
  | n + 1,s => s.interrupt.1.interrupts n

theorem interruptsIgnored (n : Nat) {s : Signals} (ignores : s.mode.interruptAction = .ignore) :
    s.interrupts n = s := by
  induction n with
  | zero => rfl
  | succ n ih => rw [interrupts,interruptIgnored ignores,ih]

end Signals

/-! ## Calls of the evaluator -/

/- What the calls of a console make of the state of its evaluator. Whatever the calls before left in
the signals, an evaluation is entered in its mode and with nothing to cancel. -/
inductive Evaluator.Calls {σ : Type} (E : Evaluator σ) : σ → σ → Prop
  | none (state : σ) : E.Calls state state
  | evaluate {state now : σ} (before : E.Calls state now) {entry : Signals}
      (mode : entry.mode = .evaluating) (clear : entry.cancel = false) (source : Text) :
      E.Calls state (E.evaluate now entry source).2.1
  | collect {state now : σ} (before : E.Calls state now) : E.Calls state (E.collectGarbage now)
  | reset {state now : σ} (before : E.Calls state now) : E.Calls state (E.reset now).2

theorem Evaluator.Calls.trans {σ : Type} {E : Evaluator σ} {a b c : σ} (first : E.Calls a b)
    (second : E.Calls b c) : E.Calls a c := by
  induction second with
  | none => exact first
  | evaluate _ mode clear source ih => exact .evaluate ih mode clear source
  | collect _ ih => exact .collect ih
  | reset _ ih => exact .reset ih

structure Evaluator.Logs {σ : Type} (E : Evaluator σ) (log : σ → List Signals) : Prop where
  evaluate : ∀ state entry source, log (E.evaluate state entry source).2.1 = log state ++ [entry]
  collect : ∀ state, log (E.collectGarbage state) = log state
  reset : ∀ state, log (E.reset state).2 = log state

theorem Evaluator.Calls.logged {σ : Type} {E : Evaluator σ} {log : σ → List Signals} (logs : E.Logs log)
    {state state' : σ} (calls : E.Calls state state') :
    ∃ entries, log state' = log state ++ entries ∧
      ∀ entry ∈ entries, entry.mode = .evaluating ∧ entry.cancel = false := by
  induction calls with
  | none => exact ⟨[],by simp,by simp⟩
  | @evaluate now _ entry mode clear source ih =>
    obtain ⟨entries,whole,fine⟩ := ih
    refine ⟨entries ++ [entry],by rw [logs.evaluate,whole,List.append_assoc],?_⟩
    intro e inside
    rcases List.mem_append.mp inside with earlier | last
    · exact fine e earlier
    · rw [List.mem_singleton.mp last]
      exact ⟨mode,clear⟩
  | collect _ ih => rwa [logs.collect]
  | reset _ ih => rwa [logs.reset]

/-! ## Accesses of the stream -/

namespace Stream

def Adds (allowed : Access → Prop) (s s' : Stream) : Prop :=
  ∃ more, s'.uses = more ++ s.uses ∧ ∀ a ∈ more, allowed a

theorem addsNone (allowed : Access → Prop) {s s' : Stream} (same : s'.uses = s.uses) : s.Adds allowed s' :=
  ⟨[],same,nofun⟩

theorem Adds.trans {allowed : Access → Prop} {a b c : Stream} (first : a.Adds allowed b)
    (second : b.Adds allowed c) : a.Adds allowed c := by
  obtain ⟨more,uses,fine⟩ := first
  obtain ⟨later,uses',fine'⟩ := second
  refine ⟨later ++ more,by rw [uses',uses,List.append_assoc],?_⟩
  intro access inside
  exact (List.mem_append.mp inside).elim (fine' access) (fine access)

theorem addsUse {allowed : Access → Prop} (s : Stream) {a : Access} (fine : allowed a) :
    s.Adds allowed (s.use a) := by
  unfold use
  split
  · exact addsNone allowed rfl
  · refine ⟨[a],rfl,?_⟩
    intro access inside
    rwa [List.mem_singleton.mp inside]

theorem addsRead {allowed : Access → Prop} (s : Stream) {mode : Mode} (n : Nat)
    (fine : allowed (.read mode)) : s.Adds allowed (s.readBytes mode n).2.2 := by
  unfold readBytes
  simp only []
  split
  · exact addsNone allowed rfl
  · exact addsUse s fine

theorem addsWrite {allowed : Access → Prop} (s : Stream) {mode : Mode} (b : Bytes)
    (fine : allowed (.write mode)) : s.Adds allowed (s.writeBytes mode b).2 := by
  unfold writeBytes
  split
  · exact addsNone allowed rfl
  · have used := addsUse s fine
    cases room : (s.use (.write mode)).room <;> simp only [room] <;> exact used

end Stream

namespace Frame

theorem addsFrame {allowed : Access → Prop} (s : Stream) {mode : Mode} (payload : Bytes)
    (fine : allowed (.write mode)) : s.Adds allowed (write s mode payload).2 := by
  unfold write
  cases encode? payload with
  | error e => exact Stream.addsNone allowed rfl
  | ok parts =>
    obtain ⟨header,payload⟩ := parts
    have first := Stream.addsWrite s header fine
    rcases wrote : s.writeBytes mode header with ⟨_ | _,s₁⟩
    · rw [wrote] at first
      simpa only [wrote] using first
    · rw [wrote] at first
      have second := Stream.addsWrite s₁ payload fine
      simp only [wrote]
      rcases wrote' : s₁.writeBytes mode payload with ⟨_ | _,s₂⟩ <;> rw [wrote'] at second <;>
        exact first.trans second

theorem addsResponse {allowed : Access → Prop} (s : Stream) {mode : Mode}
    (fine : allowed (.read mode)) : s.Adds allowed (readResponse s mode).2 := by
  unfold readResponse
  have first := Stream.addsRead s 4 fine
  rcases got : s.readBytes mode 4 with ⟨header,_ | _ | _,s₁⟩
  · rw [got] at first
    simp only []
    split
    · exact first
    · have second := Stream.addsRead s₁ (lengthOf header) fine
      unfold readPayload
      rcases got' : s₁.readBytes mode (lengthOf header) with ⟨b,_ | _ | _,s₂⟩ <;> rw [got'] at second <;>
        exact first.trans second
  · rw [got] at first
    simpa only [got] using first
  · rw [got] at first
    simpa only [got] using first

end Frame

/-! ## Exchanges -/

def Access.InTurn : Access → Prop
  | .write mode => mode = .sendingRequest
  | .read mode => mode = .awaitingResponse

def Target.Serves {σ : Type} (E : Evaluator σ) : Target σ → Target σ → Prop
  | .inProcess state,.inProcess state' => E.Calls state state'
  | .remote s,.remote s' => s.Adds Access.InTurn s'
  | _,_ => False

theorem Target.servesSame {σ : Type} (E : Evaluator σ) (t : Target σ) : t.Serves E t := by
  cases t with
  | inProcess state => exact .none state
  | remote s => exact Stream.addsNone _ rfl

theorem Target.Serves.trans {σ : Type} {E : Evaluator σ} {a b c : Target σ} (first : a.Serves E b)
    (second : b.Serves E c) : a.Serves E c := by
  cases a <;> cases b <;> cases c <;> first | exact first.elim | exact second.elim | skip
  · exact Evaluator.Calls.trans first second
  · exact Stream.Adds.trans first second

namespace Channel
variable {σ : Type}

/- The exchange with the mode kept where an interrupt finds it, and any number of interrupts while the
request is written and while the response is read. -/
def exchangeUnder (writing reading : Nat) (signals : Signals) (s : Stream) (source : Text) :
    Except ChannelError Reply × Stream × Signals :=
  let sending := (signals.withMode .sendingRequest).interrupts writing
  match Frame.write s sending.mode (Utf8.encode source) with
  | (.error e,s) => (.error e,s,sending.withMode signals.mode)
  | (.ok (),s) =>
      let awaiting := (sending.withMode .awaitingResponse).interrupts reading
      match Frame.readResponse s awaiting.mode with
      | (.error e,s) => (.error e,s,awaiting.withMode signals.mode)
      | (.ok none,s) => (.ok .noValue,s,awaiting.withMode signals.mode)
      | (.ok (some payload),s) => (.ok (.value (Utf8.decodeLossy payload)),s,awaiting.withMode signals.mode)

theorem exchangeUndisturbed (writing reading : Nat) (signals : Signals) (s : Stream) (source : Text) :
    exchangeUnder writing reading signals s source =
      ((exchange s source).1,(exchange s source).2,signals) := by
  have sending : (signals.withMode .sendingRequest).interrupts writing = signals.withMode .sendingRequest :=
    Signals.interruptsIgnored writing rfl
  have awaiting : ((signals.withMode .sendingRequest).withMode .awaitingResponse).interrupts reading =
      (signals.withMode .sendingRequest).withMode .awaitingResponse :=
    Signals.interruptsIgnored reading rfl
  have modes (mode : Mode) : (signals.withMode mode).mode = mode := rfl
  simp only [exchangeUnder,exchange,sending,awaiting]
  rw [modes .sendingRequest]
  rcases Frame.write s .sendingRequest (Utf8.encode source) with ⟨_ | _,s₁⟩
  · rfl
  · simp only []
    rw [show ((signals.withMode .sendingRequest).withMode .awaitingResponse).mode = .awaitingResponse from rfl]
    rcases Frame.readResponse s₁ .awaitingResponse with ⟨_ | _ | _,s₂⟩ <;> rfl

theorem addsExchange (s : Stream) (source : Text) : s.Adds Access.InTurn (exchange s source).2 := by
  unfold exchange
  have first : s.Adds Access.InTurn (Frame.write s .sendingRequest (Utf8.encode source)).2 :=
    Frame.addsFrame s _ rfl
  rcases wrote : Frame.write s .sendingRequest (Utf8.encode source) with ⟨_ | _,s₁⟩
  · rw [wrote] at first
    exact first
  · rw [wrote] at first
    have second : s₁.Adds Access.InTurn (Frame.readResponse s₁ .awaitingResponse).2 :=
      Frame.addsResponse s₁ rfl
    simp only []
    rcases got : Frame.readResponse s₁ .awaitingResponse with ⟨_ | _ | _,s₂⟩ <;> rw [got] at second <;>
      exact first.trans second

structure Leads (c c' : Channel σ) (signals signals' : Signals) : Prop where
  evaluator : c'.evaluator = c.evaluator
  served : c.target.Serves c.evaluator c'.target
  cancel : signals.cancel = false → signals'.cancel = false

theorem leadsSame (c : Channel σ) (signals : Signals) : Leads c c signals signals :=
  ⟨rfl,c.target.servesSame _,id⟩

theorem Leads.trans {a b c : Channel σ} {s s' s'' : Signals} (first : Leads a b s s')
    (second : Leads b c s' s'') : Leads a c s s'' where
  evaluator := second.evaluator.trans first.evaluator
  served := first.served.trans (first.evaluator ▸ second.served)
  cancel clear := second.cancel (first.cancel clear)

theorem sendLeads (c : Channel σ) (signals : Signals) (source : Text) :
    Leads c (c.send signals source).2.1 signals (c.send signals source).2.2 := by
  obtain ⟨E,target⟩ := c
  cases target with
  | inProcess state => exact ⟨rfl,.evaluate (.none state) rfl rfl source,fun _ => rfl⟩
  | remote s => exact ⟨rfl,addsExchange s source,id⟩

theorem sendRestores (c : Channel σ) (signals : Signals) (source : Text) :
    (c.send signals source).2.2.mode = signals.mode := by
  unfold send
  split <;> rfl

theorem sendUndisturbed {c : Channel σ} {s : Stream} (remote : c.target = .remote s) (signals : Signals)
    (source : Text) (writing reading : Nat) : c.send signals source =
      ((exchangeUnder writing reading signals s source).1,
        { c with target := .remote (exchangeUnder writing reading signals s source).2.1 },
        (exchangeUnder writing reading signals s source).2.2) := by
  rw [exchangeUndisturbed,send,remote]

theorem completeLeads (c : Channel σ) (signals : Signals) (context word : Text) :
    Leads c (Names.complete c signals context word).2.1 signals
      (Names.complete c signals context word).2.2 :=
  sendLeads c signals _

theorem completeRestores (c : Channel σ) (signals : Signals) (context word : Text) :
    (Names.complete c signals context word).2.2.mode = signals.mode :=
  sendRestores c signals _

/- Sending and completing come back to the mode they were called in, whatever the outcome, and go the
same way however often they are interrupted. -/
structure Restores (c : Channel σ) : Prop where
  send : ∀ signals source, (c.send signals source).2.2.mode = signals.mode
  complete : ∀ signals context word, (Names.complete c signals context word).2.2.mode = signals.mode
  undisturbed : ∀ s, c.target = .remote s → ∀ signals source writing reading, c.send signals source =
    ((exchangeUnder writing reading signals s source).1,
      { c with target := .remote (exchangeUnder writing reading signals s source).2.1 },
      (exchangeUnder writing reading signals s source).2.2)

theorem restores (c : Channel σ) : c.Restores :=
  ⟨sendRestores c,completeRestores c,fun _ remote signals source writing reading =>
    sendUndisturbed remote signals source writing reading⟩

theorem collectLeads (c : Channel σ) (signals : Signals) : Leads c c.collectGarbage.2 signals signals := by
  obtain ⟨E,target⟩ := c
  cases target with
  | inProcess state => exact ⟨rfl,.collect (.none state),id⟩
  | remote s => exact leadsSame _ signals

theorem destroyLeads (c : Channel σ) (signals : Signals) : Leads c c.destroy.2 signals signals := by
  obtain ⟨E,target⟩ := c
  cases target with
  | inProcess state => exact ⟨rfl,.reset (.none state),id⟩
  | remote s => exact leadsSame _ signals

end Channel

end ScriptConsole
