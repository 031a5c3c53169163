import ScriptConsole.Proofs.Target.Serving

/-! Sources evaluated over a stream get the replies that they get in this process, as long as the
two streams deliver what was written; how the bytes are cut and how often a read is interrupted do
not matter. -/
namespace ScriptConsole
namespace Channel
variable {σ : Type}

def sendAll (c : Channel σ) (signals : Signals) : List Text → List (Except ChannelError Reply) × Channel σ
  | [] => ([],c)
  | source :: rest =>
      let (reply,c,signals) := c.send signals source
      let (replies,c) := c.sendAll signals rest
      (reply :: replies,c)

def written (c : Channel σ) : Bytes :=
  match c.target with
  | .remote s => s.written
  | .inProcess _ => []

end Channel

namespace Conversation
open Channel ScriptConsole.Frame
open Agent (payload answers answersSignals answersLength answerBytes takesAll payloadFits)
variable {σ : Type}

def reply (value : Option Text) : Reply := value.elim .noValue .value

def requestsBytes (sources : List Text) : Bytes := sources.flatMap requestBytes

theorem localReplies (E : Evaluator σ) (state : σ) (signals : Signals) (sources : List Text) :
    sendAll ⟨E,.inProcess state⟩ signals sources =
      ((answers E state signals sources).1.map (.ok ∘ reply),
        ⟨E,.inProcess (answers E state signals sources).2⟩) := by
  induction sources generalizing state signals with
  | nil => rfl
  | cons source rest ih =>
    rcases run : E.evaluate state (signals.withMode .evaluating).clearCancel source with
      ⟨value,next,after⟩
    have kept := answersSignals E next (a := after.clearCancel.withMode signals.mode) (b := after) rest rfl
    simp only [sendAll,send,run,ih,answers,kept,List.map_cons]
    rfl

theorem exchangeWrites {s : Stream} {source : Text} (open' : s.room = none) (small : Sendable source) :
    (exchange s source).2.room = none ∧
      (exchange s source).2.written = s.written ++ requestBytes source := by
  obtain ⟨segment,later,h⟩ := segmentsExist s.arrivals
  cases frame : frame? segment with
  | none =>
    obtain ⟨e,s',done,left⟩ := exchangeUnanswered small (takesAll open' _) h frame
    rw [done]
    exact ⟨by rw [left.room,open']; rfl,left.written⟩
  | some found =>
    obtain ⟨s',done,left⟩ := exchangeAnswered small (takesAll open' _) h frame
    rw [done]
    exact ⟨by rw [left.room,open']; rfl,left.written⟩

theorem consoleWrites {E : Evaluator σ} {s : Stream} (signals : Signals) {sources : List Text}
    (open' : s.room = none) (small : ∀ source ∈ sources, Sendable source) :
    (sendAll ⟨E,.remote s⟩ signals sources).2.written = s.written ++ requestsBytes sources := by
  induction sources generalizing s signals with
  | nil => simp [sendAll,requestsBytes,written]
  | cons source rest ih =>
    obtain ⟨opened,wrote⟩ := exchangeWrites open' (small source List.mem_cons_self)
    have others := ih signals opened fun t inside => small t (List.mem_cons_of_mem _ inside)
    simp only [sendAll,send]
    rw [others,wrote,requestsBytes,requestsBytes,List.flatMap_cons,List.append_assoc]

theorem replyEncoded (value : Option Text) : replyOf (payload value) = reply value := by
  cases value with
  | none => rfl
  | some t => exact congrArg Reply.value (Utf8.decodeLossyEncode t)

theorem exchangeReads {s : Stream} {source : Text} {value : Option Text} {rest : Bytes}
    {later : List Bytes} (open' : s.room = none) (small : Sendable source)
    (fits : ∀ t, value = some t → Sendable t)
    (h : segments s.arrivals = (frameBytes (payload value) ++ rest) :: later) :
    ∃ s', exchange s source = (.ok (reply value),s') ∧ s'.room = none ∧
      segments s'.arrivals = rest :: later := by
  obtain ⟨s',done,left⟩ := exchangeAnswered small (takesAll open' _) h
    (frameBack (payloadFits fits) rest)
  exact ⟨s',by rw [done,replyEncoded],by rw [left.room,open']; rfl,left.segments⟩

theorem consoleReads {E : Evaluator σ} {s : Stream} (signals : Signals) {sources : List Text}
    {values : List (Option Text)} (open' : s.room = none) (same : sources.length = values.length)
    (small : ∀ source ∈ sources, Sendable source) (fits : ∀ t, some t ∈ values → Sendable t)
    (h : segments s.arrivals = [answerBytes values]) :
    (sendAll ⟨E,.remote s⟩ signals sources).1 = values.map (.ok ∘ reply) := by
  induction sources generalizing s signals values with
  | nil =>
    obtain rfl : values = [] := List.length_eq_zero_iff.mp same.symm
    rfl
  | cons source rest ih =>
    cases values with
    | nil => contradiction
    | cons value values =>
      rw [answerBytes,List.flatMap_cons] at h
      obtain ⟨s',read,opened,left⟩ := exchangeReads open' (small source List.mem_cons_self)
        (fun t here => fits t (by rw [here]; exact List.mem_cons_self)) h
      have others := ih signals opened (Nat.succ.inj same)
        (fun t inside => small t (List.mem_cons_of_mem _ inside))
        (fun t inside => fits t (List.mem_cons_of_mem _ inside)) left
      simp only [sendAll,send,read,others,List.map_cons,Function.comp]

theorem agentServes {E : Evaluator σ} (served : Nat) (state : σ) {s : Stream} (signals : Signals)
    {sources : List Text} (open' : s.room = none) (small : ∀ source ∈ sources, Sendable source)
    (fits : ∀ t, some t ∈ (answers E state signals sources).1 → Sendable t)
    (h : segments s.arrivals = [requestsBytes sources]) :
    (Agent.serveFrom E served state s signals).result = .ok (served + sources.length) ∧
      (Agent.serveFrom E served state s signals).state = (answers E state signals sources).2 ∧
      (Agent.serveFrom E served state s signals).stream.written =
        s.written ++ answerBytes (answers E state signals sources).1 := by
  have decoded : (sources.map Utf8.encode).map Utf8.decodeLossy = sources := by
    rw [List.map_map]
    exact List.map_id'' Utf8.decodeLossyEncode sources
  have requests : ∀ p ∈ sources.map Utf8.encode, Fits (some p) := by
    rintro p inside q ⟨⟩
    obtain ⟨source,there,rfl⟩ := List.mem_map.mp inside
    exact small source there
  have bytes : requestsBytes sources = framesBytes (sources.map Utf8.encode) ++ [] := by
    rw [List.append_nil,framesBytes,List.flatMap_map]
    rfl
  have run := Agent.serveRun served state signals open' requests stuckEmpty (by rwa [decoded])
    (by rw [h,bytes])
  rw [decoded,List.length_map] at run
  exact run

theorem valueReplied (E : Evaluator σ) (state : σ) (signals : Signals) (sources : List Text) (t : Text) :
    .ok (.value t) ∈ (sendAll ⟨E,.inProcess state⟩ signals sources).1 ↔
      some t ∈ (answers E state signals sources).1 := by
  rw [localReplies]
  constructor
  · intro inside
    obtain ⟨value,found,same⟩ := List.mem_map.mp inside
    cases value with
    | none => cases same
    | some t' => cases same; exact found
  · intro inside
    exact List.mem_map.mpr ⟨some t,inside,rfl⟩

theorem heardBytes {ρ : Type} (E : Evaluator σ) (C : Evaluator ρ) (state : σ)
    (signals consoleSignals : Signals) {sources : List Text} (toConsole : List Arrival)
    {toAgent : List Arrival} (smallSources : ∀ source ∈ sources, Sendable source)
    (smallValues : ∀ t, some t ∈ (answers E state signals sources).1 → Sendable t)
    (agentQuiet : Quiet toAgent) :
    (content toAgent = (sendAll ⟨C,.remote { arrivals := toConsole }⟩ consoleSignals sources).2.written ∧
        content toConsole = (Agent.serve E state { arrivals := toAgent } signals).stream.written) ↔
      content toAgent = requestsBytes sources ∧
        content toConsole = answerBytes (answers E state signals sources).1 := by
  -- the console's bytes are known without the agent's, which breaks the circle of the two equations
  have asked := consoleWrites (E := C) (s := { arrivals := toConsole }) consoleSignals rfl smallSources
  have served : content toAgent = requestsBytes sources →
      (Agent.serve E state { arrivals := toAgent } signals).stream.written =
        answerBytes (answers E state signals sources).1 := by
    intro heard
    have whole := quietSegments agentQuiet
    rw [heard] at whole
    exact (agentServes 0 state signals rfl smallSources smallValues whole).2.2
  rw [asked]
  constructor
  · rintro ⟨heard,back⟩
    exact ⟨heard,back.trans (served heard)⟩
  · rintro ⟨heard,back⟩
    exact ⟨heard,back.trans (served heard).symm⟩

/- The agent's signals may start in any mode; a pending abort or termination is what the evaluator
could see, so the two runs start from the same ones. -/
theorem remoteEqualsLocal {ρ : Type} (E : Evaluator σ) (C : Evaluator ρ) (state : σ)
    (signals consoleSignals : Signals) (mode : Mode) (cancel : Bool) (sources : List Text)
    (toConsole toAgent : List Arrival)
    (smallSources : ∀ source ∈ sources, Sendable source)
    (smallValues : ∀ t,
      .ok (.value t) ∈ (sendAll ⟨E,.inProcess state⟩ signals sources).1 → Sendable t)
    (consoleQuiet : Quiet toConsole) (agentQuiet : Quiet toAgent)
    (agentHears : content toAgent =
      (sendAll ⟨C,.remote { arrivals := toConsole }⟩ consoleSignals sources).2.written)
    (consoleHears : content toConsole =
      (Agent.serve E state { arrivals := toAgent } { signals with mode, cancel }).stream.written) :
    (sendAll ⟨C,.remote { arrivals := toConsole }⟩ consoleSignals sources).1 =
        (sendAll ⟨E,.inProcess state⟩ signals sources).1 ∧
      (Agent.serve E state { arrivals := toAgent } { signals with mode, cancel }).result =
        .ok sources.length ∧
      (sendAll ⟨E,.inProcess state⟩ signals sources).2 =
        ⟨E,.inProcess (Agent.serve E state { arrivals := toAgent } { signals with mode, cancel }).state⟩ := by
  have kept : answers E state { signals with mode, cancel } sources = answers E state signals sources :=
    answersSignals E state sources rfl
  have fits : ∀ t, some t ∈ (answers E state signals sources).1 → Sendable t := fun t inside =>
    smallValues t ((valueReplied E state signals sources t).mpr inside)
  obtain ⟨asked,answered⟩ := (heardBytes E C state { signals with mode, cancel } consoleSignals
    toConsole smallSources (by rw [kept]; exact fits) agentQuiet).mp ⟨agentHears,consoleHears⟩
  rw [kept] at answered
  have requests := quietSegments agentQuiet
  have replies := quietSegments consoleQuiet
  rw [asked] at requests
  rw [answered] at replies
  have read := consoleReads (E := C) (s := { arrivals := toConsole }) consoleSignals rfl
    (answersLength E state signals sources).symm smallSources fits replies
  obtain ⟨result,left,_⟩ := agentServes (E := E) 0 state { signals with mode, cancel }
    (s := { arrivals := toAgent }) rfl smallSources (by rw [kept]; exact fits) requests
  rw [Nat.zero_add] at result
  rw [kept] at left
  rw [localReplies]
  refine ⟨read,result,?_⟩
  rw [Agent.serve,left]

def lagging : Evaluator Text where
  evaluate last signals source := (if source = [] then none else some last,source,signals)
  collectGarbage last := last
  reset _ := (.ok (),[])

def laggingSources : List Text := [[],['é'],['b']]

def choppedRequests : List Arrival :=
  [.bytes [0,0,0,0,2,0],.fault .interrupted,.bytes [0,0,195],.bytes [169,1,0,0,0,98]]

def choppedAnswers : List Arrival :=
  [.fault .interrupted,.bytes [255],.bytes [255,255,255,0],.fault .interrupted,
    .bytes [0,0,0,2,0,0,0,195],.fault .interrupted,.bytes [169]]

theorem remoteEqualsLocalLagging :
    (sendAll ⟨lagging,.remote { arrivals := choppedAnswers }⟩ {} laggingSources).1 =
        (sendAll ⟨lagging,.inProcess []⟩ {} laggingSources).1 ∧
      (Agent.serve lagging [] { arrivals := choppedRequests } {}).result = .ok 3 := by
  have values : (answers lagging [] {} laggingSources).1 = [none,some [],some ['é']] := rfl
  have sourcesSmall : ∀ source ∈ laggingSources, Sendable source := by decide
  have valuesSmall : ∀ t, some t ∈ (answers lagging [] {} laggingSources).1 → Sendable t := by
    intro t inside
    rw [values] at inside
    rcases inside with _ | ⟨_,_ | ⟨_,_ | ⟨_,_⟩⟩⟩ <;> first | decide | contradiction
  have answersQuiet : Quiet choppedAnswers := by
    intro e inside
    simpa [choppedAnswers] using inside
  have requestsQuiet : Quiet choppedRequests := by
    intro e inside
    simpa [choppedRequests] using inside
  obtain ⟨agentHears,consoleHears⟩ := (heardBytes lagging lagging [] {} {}
    choppedAnswers sourcesSmall valuesSmall requestsQuiet).mpr ⟨by decide,by rw [values]; decide⟩
  obtain ⟨replies,result,_⟩ := remoteEqualsLocal lagging lagging [] {} {} .idle false laggingSources
    choppedAnswers choppedRequests sourcesSmall
    (fun t inside => valuesSmall t ((valueReplied lagging [] {} laggingSources t).mp inside))
    answersQuiet requestsQuiet agentHears consoleHears
  exact ⟨replies,result⟩

end Conversation

end ScriptConsole
