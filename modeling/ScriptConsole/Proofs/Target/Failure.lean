import ScriptConsole.Target.Names
import ScriptConsole.Proofs.Target.Exchange

/-! What a failed exchange leaves behind. The stream is used again by the next call, and a completion
does not report its failure: later calls may get the answer to an earlier request. Failures are final
on spent streams alone, those with no whole response behind the reads that still have to fail. -/
namespace ScriptConsole.Channel
open ScriptConsole.Frame
variable {σ : Type}

inductive Call
  | send (source : Text)
  | complete (context word : Text)
  deriving DecidableEq, Repr

namespace Call

def source : Call → Text
  | send source => source
  | complete context _ => Names.snippet ((Names.objectExpression? context).getD "globalThis".toList)

def run (c : Channel σ) (signals : Signals) :
    Call → Option (Except ChannelError Reply) × Channel σ × Signals
  | send source =>
      let (reply,c,signals) := c.send signals source
      (some reply,c,signals)
  | complete context word =>
      let (_,c,signals) := Names.complete c signals context word
      (none,c,signals)

def shown (outcome : Except ChannelError Reply) : Call → Option (Except ChannelError Reply)
  | send _ => some outcome
  | complete _ _ => none

end Call

def runCalls (c : Channel σ) (signals : Signals) :
    List Call → List (Option (Except ChannelError Reply)) × Channel σ
  | [] => ([],c)
  | call :: rest =>
      let (reply,c,signals) := call.run c signals
      let (replies,c) := c.runCalls signals rest
      (reply :: replies,c)

def exchangeAll (s : Stream) : List Text → List (Except ChannelError Reply) × Stream
  | [] => ([],s)
  | source :: rest =>
      let (outcome,s) := exchange s source
      let (outcomes,s) := exchangeAll s rest
      (outcome :: outcomes,s)

def streamAfter (s : Stream) (calls : List Call) : Stream := (exchangeAll s (calls.map Call.source)).2

/- Segment k is reached after k failures, and every request takes four bytes or more. -/
def Spent (s : Stream) : Prop :=
  ∀ k segment, (segments s.arrivals)[k]? = some segment → frame? segment ≠ none →
    ¬ s.Takes (4 * (k + 1))

theorem runRemote {c : Channel σ} {s : Stream} (remote : c.target = .remote s) (signals : Signals)
    (call : Call) :
    call.run c signals = (call.shown (exchange s call.source).1,
      { c with target := .remote (exchange s call.source).2 },signals) := by
  cases call <;> simp only [Call.run,Names.complete,send,remote,Call.shown,Call.source]

theorem runCallsRemote {c : Channel σ} {s : Stream} (remote : c.target = .remote s) (signals : Signals)
    (calls : List Call) :
    (runCalls c signals calls).1 =
        List.zipWith Call.shown (exchangeAll s (calls.map Call.source)).1 calls ∧
      (runCalls c signals calls).2.target = .remote (streamAfter s calls) := by
  induction calls generalizing c s with
  | nil => exact ⟨rfl,remote⟩
  | cons call rest ih =>
    obtain ⟨replies,target⟩ := ih (c := { c with target := .remote (exchange s call.source).2 }) rfl
    simp only [runCalls,runRemote remote,List.map_cons,exchangeAll,List.zipWith_cons_cons,replies,
      true_and]
    exact target

theorem exchangeAllAppend (s : Stream) (a b : List Text) :
    exchangeAll s (a ++ b) = ((exchangeAll s a).1 ++ (exchangeAll (exchangeAll s a).2 b).1,
      (exchangeAll (exchangeAll s a).2 b).2) := by
  induction a generalizing s with
  | nil => rfl
  | cons source rest ih => simp only [List.cons_append,exchangeAll,ih]

theorem streamAfterSnoc (s : Stream) (calls : List Call) (call : Call) :
    streamAfter s (calls ++ [call]) = (exchange (streamAfter s calls) call.source).2 := by
  simp only [streamAfter,List.map_append,exchangeAllAppend,List.map_cons,List.map_nil,exchangeAll]

theorem exhausted {s : Stream} (none : s.room = some 0) : Spent s := by
  intro k segment _ _ takes
  have few := takes 0 none
  omega

theorem takesLess {s : Stream} {m n : Nat} (takes : s.Takes n) (less : m ≤ n) : s.Takes m :=
  fun room h => Nat.le_trans less (takes room h)

theorem takesRest {s s' : Stream} {source : Text} {left : List Bytes} {n : Nat}
    (after : Exchanged s s' source left) (takes : s'.Takes n)
    (fits : s.Takes (requestBytes source).length) : s.Takes ((requestBytes source).length + n) := by
  intro room h
  have first := fits room h
  have rest := takes (room - (requestBytes source).length) (by rw [after.room,h]; rfl)
  omega

theorem spentStep {s : Stream} (spent : Spent s) (source : Text) :
    (∃ e, (exchange s source).1 = .error e) ∧ Spent (exchange s source).2 := by
  by_cases small : Sendable source
  · by_cases fits : s.Takes (requestBytes source).length
    · obtain ⟨segment,later,h⟩ := segmentsExist s.arrivals
      have four : 4 ≤ (requestBytes source).length := by rw [requestLength]; omega
      cases frame : frame? segment with
      | some found =>
        -- a whole response in front is what a spent stream does not have
        have beyond := spent 0 segment (by rw [h]; rfl) (by rw [frame]; exact Option.some_ne_none _)
        exact absurd (takesLess fits four) beyond
      | none =>
        obtain ⟨e,s',done,after⟩ := exchangeUnanswered small fits h frame
        rw [done]
        refine ⟨⟨e,rfl⟩,?_⟩
        intro k segment' found whole takes
        rw [after.segments] at found
        split at found
        · cases k with
          | zero => cases found; exact whole frameEmpty
          | succ k => contradiction
        · -- one segment is gone and so is the room of one request, which keeps the bound
          refine spent (k + 1) segment' (by rw [h]; exact found) whole ?_
          exact takesLess (takesRest after takes fits) (by omega)
    · obtain ⟨s',done,none⟩ := exchangeBroken small fits
      rw [done]
      exact ⟨⟨_,rfl⟩,exhausted none⟩
  · rw [exchangeTooLarge s small]
    exact ⟨⟨_,rfl⟩,spent⟩

theorem spentRun {s : Stream} (spent : Spent s) (sources : List Text) :
    (∀ outcome ∈ (exchangeAll s sources).1, ∃ e, outcome = .error e) ∧
      Spent (exchangeAll s sources).2 := by
  induction sources generalizing s with
  | nil => exact ⟨fun _ inside => (List.not_mem_nil inside).elim,spent⟩
  | cons source rest ih =>
    obtain ⟨failed,next⟩ := spentStep spent source
    obtain ⟨others,last⟩ := ih next
    refine ⟨?_,last⟩
    intro outcome inside
    rcases List.mem_cons.mp inside with rfl | inside
    · exact failed
    · exact others outcome inside

theorem smallEmpty : Sendable [] := by decide

theorem answeredAfter (k : Nat) {s : Stream} {segment : Bytes}
    (found : (segments s.arrivals)[k]? = some segment) (whole : frame? segment ≠ none)
    (takes : s.Takes (4 * (k + 1))) :
    ∃ n reply, .ok reply ∈ (exchangeAll s (List.replicate n [])).1 := by
  induction k generalizing s with
  | zero =>
    obtain ⟨first,later,h⟩ := segmentsExist s.arrivals
    rw [h] at found
    cases found
    cases frame : frame? segment with
    | none => exact absurd frame whole
    | some pair =>
      obtain ⟨s',done,_⟩ := exchangeAnswered smallEmpty takes h frame
      exact ⟨1,replyOf pair.1,by simp [exchangeAll,done]⟩
  | succ k ih =>
    obtain ⟨first,later,h⟩ := segmentsExist s.arrivals
    have fits : s.Takes (requestBytes []).length := takesLess takes (Nat.le_mul_of_pos_right 4 (by omega))
    cases frame : frame? first with
    | some pair =>
      obtain ⟨s',done,_⟩ := exchangeAnswered smallEmpty fits h frame
      exact ⟨1,replyOf pair.1,by simp [exchangeAll,done]⟩
    | none =>
      rw [h,List.getElem?_cons_succ] at found
      obtain ⟨e,s',done,after⟩ := exchangeUnanswered smallEmpty fits h frame
      have more : later ≠ [] := by rintro rfl; contradiction
      rw [if_neg more] at after
      obtain ⟨n,reply,inside⟩ := ih (s := s') (by rw [after.segments]; exact found) (by
        intro room left
        rw [after.room] at left
        obtain ⟨limit,some,rfl⟩ := Option.map_eq_some_iff.mp left
        have enough := takes limit some
        simp only [requestLength,Utf8.encode,List.flatMap_nil,List.length_nil]
        omega)
      refine ⟨n + 1,reply,?_⟩
      simp only [List.replicate_succ,exchangeAll,done]
      exact List.mem_cons_of_mem _ inside

theorem runSends {c : Channel σ} {s : Stream} (remote : c.target = .remote s) (signals : Signals)
    (sources : List Text) :
    (runCalls c signals (sources.map .send)).1 = (exchangeAll s sources).1.map some := by
  induction sources generalizing c s with
  | nil => rfl
  | cons source rest ih =>
    have others := ih (c := { c with target := .remote (exchange s source).2 }) rfl
    simp only [List.map_cons,runCalls,runRemote remote,exchangeAll,Call.shown,Call.source,others]

theorem shownOutcome {outcomes : List (Except ChannelError Reply)} {calls : List Call}
    {reply : Except ChannelError Reply}
    (inside : some reply ∈ List.zipWith Call.shown outcomes calls) : reply ∈ outcomes := by
  induction outcomes generalizing calls with
  | nil => simp at inside
  | cons outcome rest ih =>
    cases calls with
    | nil => simp at inside
    | cons call calls =>
      rw [List.zipWith_cons_cons] at inside
      rcases List.mem_cons.mp inside with shown | inside
      · cases call with
        | send source => cases shown; exact List.mem_cons_self
        | complete context word => contradiction
      · exact List.mem_cons_of_mem _ (ih inside)

theorem finalIffSpent {c : Channel σ} {s : Stream} (remote : c.target = .remote s) (signals : Signals) :
    (∀ later reply, some reply ∈ (runCalls c signals later).1 → ∃ e, reply = .error e) ↔ Spent s := by
  constructor
  · intro final k segment found whole takes
    obtain ⟨n,reply,inside⟩ := answeredAfter k found whole takes
    have shown : some (.ok reply) ∈ (runCalls c signals ((List.replicate n []).map .send)).1 := by
      rw [runSends remote signals]
      exact List.mem_map.mpr ⟨_,inside,rfl⟩
    obtain ⟨e,wrong⟩ := final _ _ shown
    contradiction
  · intro spent later reply inside
    rw [(runCallsRemote remote signals later).1] at inside
    exact (spentRun spent _).1 reply (shownOutcome inside)

def framesIn : Nat → Bytes → Option (List (Option Bytes) × Bytes)
  | 0, bytes => some ([],bytes)
  | n + 1, bytes => do
      let (payload,rest) ← frame? bytes
      let (payloads,left) ← framesIn n rest
      some (payload :: payloads,left)

theorem exchangeOk {s s' : Stream} {source : Text} {reply : Reply} {segment : Bytes}
    {later : List Bytes} (h : segments s.arrivals = segment :: later)
    (answered : exchange s source = (.ok reply,s')) :
    ∃ payload rest, frame? segment = some (payload,rest) ∧ reply = replyOf payload ∧
      segments s'.arrivals = rest :: later := by
  by_cases small : Sendable source
  · by_cases fits : s.Takes (requestBytes source).length
    · cases frame : frame? segment with
      | none =>
        obtain ⟨e,_,done,_⟩ := exchangeUnanswered small fits h frame
        rw [done] at answered
        cases answered
      | some found =>
        obtain ⟨payload,rest⟩ := found
        obtain ⟨_,done,after⟩ := exchangeAnswered small fits h frame
        rw [done] at answered
        cases answered
        exact ⟨payload,rest,rfl,rfl,after.segments⟩
    · obtain ⟨_,done,_⟩ := exchangeBroken small fits
      rw [done] at answered
      cases answered
  · rw [exchangeTooLarge s small] at answered
    cases answered

theorem answeredInOrder {s : Stream} {segment : Bytes} {later : List Bytes} {sources : List Text}
    (h : segments s.arrivals = segment :: later)
    (answered : ∀ outcome ∈ (exchangeAll s sources).1, ∃ reply, outcome = .ok reply) :
    ∃ payloads rest, framesIn sources.length segment = some (payloads,rest) ∧
      (exchangeAll s sources).1 = payloads.map (.ok ∘ replyOf) ∧
      segments (exchangeAll s sources).2.arrivals = rest :: later := by
  induction sources generalizing s segment with
  | nil => exact ⟨[],segment,rfl,rfl,h⟩
  | cons source sources ih =>
    obtain ⟨reply,ok⟩ := answered (exchange s source).1 List.mem_cons_self
    obtain ⟨payload,rest,frame,rfl,left⟩ := exchangeOk h (Prod.ext ok rfl)
    obtain ⟨payloads,last,others,replies,final⟩ := ih left fun outcome inside =>
      answered outcome (List.mem_cons_of_mem _ inside)
    refine ⟨payload :: payloads,last,?_,?_,final⟩
    · simp only [List.length_cons,framesIn,frame,others,bind,Option.bind]
    · simp only [exchangeAll,ok,replies,List.map_cons,Function.comp]

theorem soleSegmentStep {s : Stream} {segment : Bytes} (h : segments s.arrivals = [segment])
    {source : Text} (small : Sendable source) :
    (∃ reply rest, (exchange s source).1 = .ok reply ∧ segments (exchange s source).2.arrivals = [rest]) ∨
      Spent (exchange s source).2 := by
  by_cases fits : s.Takes (requestBytes source).length
  · cases frame : frame? segment with
    | some found =>
      obtain ⟨s',done,after⟩ := exchangeAnswered small fits h frame
      rw [done]
      exact .inl ⟨_,found.2,rfl,after.segments⟩
    | none =>
      obtain ⟨e,s',done,after⟩ := exchangeUnanswered small fits h frame
      rw [done]
      refine .inr fun k segment' found whole _ => ?_
      rw [after.segments,if_pos rfl] at found
      cases k with
      | zero => cases found; exact whole frameEmpty
      | succ k => contradiction
  · obtain ⟨s',done,none⟩ := exchangeBroken small fits
    rw [done]
    exact .inr (exhausted none)

theorem soleSegmentRun {s : Stream} {segment : Bytes} (h : segments s.arrivals = [segment])
    {sources : List Text} (small : ∀ source ∈ sources, Sendable source) :
    (∃ rest, segments (exchangeAll s sources).2.arrivals = [rest]) ∨ Spent (exchangeAll s sources).2 := by
  induction sources generalizing s segment with
  | nil => exact .inl ⟨segment,h⟩
  | cons source sources ih =>
    rcases soleSegmentStep h (small source List.mem_cons_self) with ⟨_,rest,_,left⟩ | spent
    · exact ih left fun t inside => small t (List.mem_cons_of_mem _ inside)
    · exact .inr (spentRun spent sources).2

/- Up to the first failure the replies are the responses in order. After a failure all later sends
fail exactly on a spent stream, and only a failing read or an oversized source leaves another. -/
theorem failureFinalIff {c : Channel σ} {s : Stream} (remote : c.target = .remote s) (signals : Signals)
    (earlier : List Call) (call : Call) {e : ChannelError}
    (failed : (exchange (streamAfter s earlier) call.source).1 = .error e) :
    ((∀ later reply,
        some reply ∈ (runCalls (runCalls c signals (earlier ++ [call])).2 signals later).1 →
          ∃ e, reply = .error e) ↔
      Spent (streamAfter s (earlier ++ [call]))) ∧
    (Quiet s.arrivals → (∀ x ∈ earlier ++ [call], Sendable x.source) →
      Spent (streamAfter s (earlier ++ [call]))) ∧
    ((∀ outcome ∈ (exchangeAll s (earlier.map Call.source)).1, ∃ reply, outcome = .ok reply) →
      ∃ segment later payloads rest, segments s.arrivals = segment :: later ∧
        framesIn earlier.length segment = some (payloads,rest) ∧
        (runCalls c signals earlier).1 =
          List.zipWith Call.shown (payloads.map (.ok ∘ replyOf)) earlier) := by
  refine ⟨?_,?_,?_⟩
  · exact finalIffSpent (runCallsRemote remote signals (earlier ++ [call])).2 signals
  · intro quiet small
    rw [streamAfterSnoc]
    have earlierSmall : ∀ source ∈ earlier.map Call.source, Sendable source := by
      intro source inside
      obtain ⟨x,there,rfl⟩ := List.mem_map.mp inside
      exact small x (List.mem_append_left _ there)
    have before := soleSegmentRun (quietSegments quiet) earlierSmall
    rcases before with ⟨rest,left⟩ | spent
    · rcases soleSegmentStep left (small call (List.mem_append_right _ List.mem_cons_self)) with
        ⟨reply,_,ok,_⟩ | spent
      · cases failed.symm.trans ok
      · exact spent
    · exact (spentStep spent call.source).2
  · intro answered
    obtain ⟨segment,later,h⟩ := segmentsExist s.arrivals
    obtain ⟨payloads,rest,frames,replies,_⟩ := answeredInOrder h answered
    rw [List.length_map] at frames
    exact ⟨segment,later,payloads,rest,h,frames,by rw [(runCallsRemote remote signals earlier).1,replies]⟩

def silent : Evaluator Unit where
  evaluate state signals _ := (none,state,signals)
  collectGarbage state := state
  reset state := (.ok (),state)

def slow : Stream :=
  { arrivals := [.fault .timedOut,.bytes [1,0,0,0,97],.bytes [1,0,0,0,98]] }

theorem failureFinalIffSlow :
    (exchange (streamAfter slow []) ['x']).1 = .error (.io .timedOut) ∧
      ¬ ∀ later reply,
        some reply ∈ (runCalls (runCalls ⟨silent,.remote slow⟩ {} [.send ['x']]).2 {} later).1 →
          ∃ e, reply = .error e := by
  have failed : (exchange (streamAfter slow []) (Call.send ['x']).source).1 = .error (.io .timedOut) := rfl
  refine ⟨failed,fun final => ?_⟩
  have spent := (failureFinalIff (c := ⟨silent,.remote slow⟩) rfl {} [] (.send ['x']) failed).1.mp final
  exact spent 0 [1,0,0,0,97,1,0,0,0,98] rfl (by decide) fun _ none => by cases none

theorem slowAnswersNext {source : Text} (small : Sendable source) :
    ∃ e, (exchange slow source).1 = .error e ∧
      (exchangeAll slow [source,['y']]).1 = [.error e,.ok (.value ['a'])] := by
  have fits : ∀ n, slow.Takes n := fun n room none => by cases none
  have faulted : segments slow.arrivals = [[],[1,0,0,0,97,1,0,0,0,98]] := rfl
  obtain ⟨e,s',lost,after⟩ := exchangeUnanswered small (fits _) faulted frameEmpty
  have left : s'.Takes (requestBytes ['y']).length := by
    intro room some
    rw [after.room] at some
    cases some
  have whole : frame? [1,0,0,0,97,1,0,0,0,98] = some (some [97],[1,0,0,0,98]) := rfl
  have small' : Sendable ['y'] := by decide
  obtain ⟨s'',got,_⟩ := exchangeAnswered small' left after.segments whole
  have value : replyOf (some [97]) = .value ['a'] := by decide +kernel
  exact ⟨e,by rw [lost],by simp only [exchangeAll,lost,got,value]⟩

theorem failedCompletionAnswersSend :
    (∃ e, (exchange slow (Call.complete [] ['x']).source).1 = .error e) ∧
      (runCalls ⟨silent,.remote slow⟩ {} [.complete [] ['x'],.send ['y']]).1 =
        [none,some (.ok (.value ['a']))] := by
  have small : Sendable (Call.complete [] ['x']).source := by decide +kernel
  obtain ⟨e,lost,next⟩ := slowAnswersNext small
  refine ⟨⟨e,lost⟩,?_⟩
  have asked : (Call.send ['y']).source = ['y'] := rfl
  rw [(runCallsRemote (c := ⟨silent,.remote slow⟩) rfl {} _).1,List.map_cons,List.map_cons,List.map_nil,
    asked,next]
  rfl

end ScriptConsole.Channel
