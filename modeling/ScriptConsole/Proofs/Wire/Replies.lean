import ScriptConsole.Proofs.Wire.Frames

/-! Responses written one after the other, and read back from any first part of the bytes. The frames
that are there whole come back as they were, whatever follows them; after them the stream is closed for
good. How the bytes are cut into pieces and how often a read is interrupted do not matter. -/
namespace ScriptConsole.Frame

def writeReply (s : Stream) (mode : Mode) : Option Bytes → Except ChannelError Unit × Stream
  | none => writeNoValue s mode
  | some payload => write s mode payload

def writeReplies (s : Stream) (mode : Mode) : List (Option Bytes) → Except ChannelError Unit × Stream
  | [] => (.ok (),s)
  | reply :: rest =>
      match writeReply s mode reply with
      | (.error e,s) => (.error e,s)
      | (.ok (),s) => writeReplies s mode rest

def readResponses (s : Stream) (mode : Mode) : Nat → List (Except ChannelError (Option Bytes)) × Stream
  | 0 => ([],s)
  | n + 1 =>
      let (reply,s) := readResponse s mode
      let (replies,s) := readResponses s mode n
      (reply :: replies,s)

def repliesBytes (replies : List (Option Bytes)) : Bytes := replies.flatMap frameBytes

theorem repliesCons (reply : Option Bytes) (rest : List (Option Bytes)) :
    repliesBytes (reply :: rest) = frameBytes reply ++ repliesBytes rest := List.flatMap_cons

theorem writeReplySent {s : Stream} {reply : Option Bytes} (mode : Mode) (fits : Fits reply)
    (takes : ∀ n, s.Takes n) : ∃ s', writeReply s mode reply = (.ok (),s') ∧ s.Sent s' (frameBytes reply) := by
  cases reply with
  | none => exact writeNoValueSent mode (takes 4)
  | some payload => exact writeSent mode (fits payload rfl) (takes _)

theorem writeRepliesSent {s : Stream} {replies : List (Option Bytes)} (mode : Mode)
    (fits : ∀ reply ∈ replies, Fits reply) (takes : ∀ n, s.Takes n) :
    ∃ s', writeReplies s mode replies = (.ok (),s') ∧ s'.written = s.written ++ repliesBytes replies := by
  induction replies generalizing s with
  | nil => exact ⟨s,rfl,by simp [repliesBytes]⟩
  | cons reply rest ih =>
    obtain ⟨s₁,first,sent⟩ := writeReplySent mode (fits reply List.mem_cons_self) takes
    obtain ⟨s₂,others,wrote⟩ := ih (s := s₁) (fun r inside => fits r (List.mem_cons_of_mem _ inside))
      fun n => takesAfter sent (takes _)
    refine ⟨s₂,by simp only [writeReplies,first,others],?_⟩
    rw [wrote,sent.written,repliesCons,List.append_assoc]

/- Reading returns the replies that are kept, and then nothing more; up to there each read takes its
own frame and no byte behind it. -/
structure Returns (s : Stream) (mode : Mode) (kept : List (Option Bytes)) (bytes : Bytes) : Prop where
  replies : ∀ n, (readResponses s mode n).1 =
    (kept.take n).map .ok ++ List.replicate (n - kept.length) (.error .closed)
  left : ∀ n, n ≤ kept.length →
    segments (readResponses s mode n).2.arrivals = [bytes.drop (repliesBytes (kept.take n)).length]

theorem returnsSpent {s : Stream} (mode : Mode) (h : segments s.arrivals = [[]]) (n : Nat) :
    (readResponses s mode n).1 = List.replicate n (.error .closed) := by
  induction n generalizing s with
  | zero => rfl
  | succ n ih =>
    obtain ⟨e,s',read,closed,after⟩ := readResponseFails mode h frameEmpty
    obtain rfl := closed rfl
    simp only [readResponses,read,ih after.segments,List.replicate_succ]

theorem returnsNothing {s : Stream} {bytes : Bytes} (mode : Mode) (h : segments s.arrivals = [bytes])
    (broken : frame? bytes = none) : Returns s mode [] bytes where
  replies n := by
    cases n with
    | zero => rfl
    | succ n =>
      obtain ⟨e,s',read,closed,after⟩ := readResponseFails mode h broken
      obtain rfl := closed rfl
      simp only [readResponses,read,returnsSpent mode after.segments]
      rfl
  left n none := by
    obtain rfl : n = 0 := Nat.le_zero.mp none
    exact h

theorem returnsFrame {s s' : Stream} {reply : Option Bytes} {kept : List (Option Bytes)} {rest : Bytes}
    {mode : Mode} (read : readResponse s mode = (.ok reply,s'))
    (h : segments s.arrivals = [frameBytes reply ++ rest]) (returns : Returns s' mode kept rest) :
    Returns s mode (reply :: kept) (frameBytes reply ++ rest) where
  replies n := by
    cases n with
    | zero =>
      rw [Nat.zero_sub]
      rfl
    | succ n =>
      simp only [readResponses,read,returns.replies,List.take_succ_cons,List.map_cons,List.cons_append,
        List.length_cons,Nat.add_sub_add_right]
  left n within := by
    cases n with
    | zero => exact h
    | succ n =>
      have left := returns.left n (Nat.le_of_succ_le_succ within)
      rw [List.take_succ_cons,repliesCons,List.length_append,← List.drop_drop,List.drop_left]
      simp only [readResponses,read,left]

structure Within (cut : Nat) (replies kept lost : List (Option Bytes)) : Prop where
  whole : replies = kept ++ lost
  fits : (repliesBytes kept).length ≤ cut
  cut : ∀ reply more, lost = reply :: more → cut < (repliesBytes (kept ++ [reply])).length

theorem withinCons {cut : Nat} {reply : Option Bytes} {rest kept lost : List (Option Bytes)}
    (fits : (frameBytes reply).length ≤ cut) (within : Within (cut - (frameBytes reply).length) rest kept lost) :
    Within cut (reply :: rest) (reply :: kept) lost where
  whole := by rw [within.whole]; rfl
  fits := by
    have := within.fits
    rw [repliesCons,List.length_append]
    omega
  cut next more same := by
    have := within.cut next more same
    rw [List.cons_append,repliesCons,List.length_append]
    omega

theorem cutReturns {s : Stream} {replies : List (Option Bytes)} (mode : Mode)
    (fits : ∀ reply ∈ replies, Fits reply) {cut : Nat}
    (h : segments s.arrivals = [(repliesBytes replies).take cut]) :
    ∃ kept lost, Within cut replies kept lost ∧ Returns s mode kept ((repliesBytes replies).take cut) := by
  -- each frame is either whole, and the rest starts behind it, or the cut is inside it
  induction replies generalizing s cut with
  | nil =>
    rw [repliesBytes,List.flatMap_nil,List.take_nil] at h ⊢
    exact ⟨[],[],⟨rfl,Nat.zero_le cut,nofun⟩,returnsNothing mode h frameEmpty⟩
  | cons reply rest ih =>
    have first := fits reply List.mem_cons_self
    rw [repliesCons,List.take_append] at h ⊢
    by_cases whole : (frameBytes reply).length ≤ cut
    · rw [List.take_of_length_le whole] at h ⊢
      obtain ⟨s',read,after⟩ := readResponseFrame mode h (frameBack first _)
      obtain ⟨kept,lost,within,returns⟩ := ih (fun r inside => fits r (List.mem_cons_of_mem _ inside))
        after.segments
      exact ⟨reply :: kept,lost,withinCons whole within,returnsFrame read h returns⟩
    · have inside : cut < (frameBytes reply).length := Nat.lt_of_not_le whole
      rw [Nat.sub_eq_zero_of_le (Nat.le_of_lt inside),List.take_zero,List.append_nil] at h ⊢
      refine ⟨[],reply :: rest,⟨rfl,Nat.zero_le cut,?_⟩,returnsNothing mode h (frameCut first inside)⟩
      rintro next more ⟨⟩
      rw [List.nil_append,repliesCons,repliesBytes,List.flatMap_nil,List.append_nil]
      exact inside

theorem cutRepliesReturn {replies : List (Option Bytes)} (fits : ∀ reply ∈ replies, Fits reply)
    (writing reading : Mode) (cut : Nat) {arrivals : List Arrival} (quiet : Quiet arrivals)
    (heard : content arrivals = (writeReplies {} writing replies).2.written.take cut) :
    (writeReplies {} writing replies).1 = .ok () ∧
      (writeReplies {} writing replies).2.written = repliesBytes replies ∧
      ∃ kept lost, Within cut replies kept lost ∧ ∀ n,
        (readResponses { arrivals } reading n).1 =
          (kept.take n).map .ok ++ List.replicate (n - kept.length) (.error .closed) ∧
        (n ≤ kept.length → content (readResponses { arrivals } reading n).2.arrivals =
          (content arrivals).drop (repliesBytes (kept.take n)).length) := by
  obtain ⟨out,wrote,written⟩ := writeRepliesSent (s := {}) writing fits fun _ _ => nofun
  rw [List.nil_append] at written
  rw [wrote,written] at heard
  have whole := quietSegments quiet
  rw [heard] at whole
  obtain ⟨kept,lost,within,returns⟩ := cutReturns (s := { arrivals }) reading fits whole
  refine ⟨by rw [wrote],by rw [wrote,written],kept,lost,within,fun n => ⟨returns.replies n,fun few => ?_⟩⟩
  rw [heard]
  exact soleContent (returns.left n few)

def sampleReplies : List (Option Bytes) := [none,some [],some [104,105]]

def choppedReplies : List Arrival :=
  [.fault .interrupted,.bytes [255,255],.bytes [255,255,0],.fault .interrupted,.bytes [0,0,0,2,0],
    .bytes [0,0,104],.fault .interrupted]

theorem cutRepliesReturnSample :
    (readResponses { arrivals := choppedReplies } .awaitingResponse 4).1 =
      [.ok none,.ok (some []),.error .closed,.error .closed] := by
  have fits : ∀ reply ∈ sampleReplies, Fits reply := by
    intro reply inside p payload
    subst payload
    simp only [sampleReplies,List.mem_cons,List.not_mem_nil,Option.some.injEq,reduceCtorEq,or_false,
      false_or] at inside
    rcases inside with rfl | rfl <;> decide
  have quiet : Quiet choppedReplies := by
    intro e inside
    simpa [choppedReplies] using inside
  obtain ⟨_,_,kept,lost,within,returns⟩ := cutRepliesReturn fits .idle .awaitingResponse 13 quiet (by decide)
  have both : kept = [none,some []] := by
    have whole := within.whole
    rcases kept with _ | ⟨first,_ | ⟨second,_ | ⟨third,more⟩⟩⟩ <;>
      simp only [sampleReplies,List.nil_append,List.cons_append,List.cons.injEq] at whole
    · exact absurd (within.cut _ _ whole.symm) (by decide)
    · obtain ⟨rfl,rest⟩ := whole
      exact absurd (within.cut _ _ rest.symm) (by decide)
    · obtain ⟨rfl,rfl,_⟩ := whole
      rfl
    · obtain ⟨rfl,rfl,rfl,_⟩ := whole
      have := within.fits
      simp only [repliesCons,frameBytes,List.length_append,lengthBytesLength,List.length_cons,
        List.length_nil] at this
      omega
  rw [(returns 4).1,both]
  rfl

end ScriptConsole.Frame
