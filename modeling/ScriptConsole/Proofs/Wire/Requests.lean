import ScriptConsole.Proofs.Wire.Frames

/-! The requests at the front of a stream of bytes: as many whole frames as there are, and what the
reader of requests makes of the bytes behind them. -/
namespace ScriptConsole.Frame

def Stuck (rest : Bytes) : Prop := ∀ p, Fits (some p) → ¬ frameBytes (some p) <+: rest

def framesBytes (payloads : List Bytes) : Bytes := payloads.flatMap fun p => frameBytes (some p)

structure Fronted (bytes : Bytes) (payloads : List Bytes) (rest : Bytes) : Prop where
  whole : bytes = framesBytes payloads ++ rest
  fits : ∀ p ∈ payloads, Fits (some p)
  stuck : Stuck rest

theorem stuckIff {rest : Bytes} : Stuck rest ↔ ∀ p more, frame? rest ≠ some (some p,more) := by
  constructor
  · intro stuck p more found
    obtain ⟨whole,fits⟩ := frameSound found
    exact stuck p fits ⟨more,whole.symm⟩
  · rintro none p fits ⟨more,rfl⟩
    exact none p more (frameBack fits more)

theorem stuckEmpty : Stuck [] := stuckIff.mpr fun _ _ => nofun

theorem frontedCons {p bytes rest : Bytes} {payloads : List Bytes} (fits : Fits (some p))
    (fronted : Fronted bytes payloads rest) :
    Fronted (frameBytes (some p) ++ bytes) (p :: payloads) rest where
  whole := by rw [fronted.whole,framesBytes,framesBytes,List.flatMap_cons,List.append_assoc]
  fits q inside := by
    rcases List.mem_cons.mp inside with rfl | later
    · exact fits
    · exact fronted.fits q later
  stuck := fronted.stuck

theorem frontExists (bytes : Bytes) : ∃ payloads rest, Fronted bytes payloads rest := by
  -- every frame takes at least the bytes of its header away
  induction size : bytes.length using Nat.strongRecOn generalizing bytes with
  | ind n ih =>
    by_cases stuck : Stuck bytes
    · exact ⟨[],bytes,rfl,nofun,stuck⟩
    · simp only [stuckIff,ne_eq,Classical.not_forall,Classical.not_not] at stuck
      obtain ⟨p,more,found⟩ := stuck
      obtain ⟨rfl,fits⟩ := frameSound found
      have shorter : more.length < n := by
        rw [← size,frameBytes,List.length_append,List.length_append,lengthBytesLength]
        omega
      obtain ⟨payloads,rest,fronted⟩ := ih more.length shorter more rfl
      exact ⟨p :: payloads,rest,frontedCons fits fronted⟩

def requestEnd (rest : Bytes) : Except ChannelError Unit :=
  if rest = [] then .ok ()
  else if lengthBytes noValue <+: rest then .error .valuelessRequest
  else .error .closed

theorem markerIff {rest : Bytes} (long : 4 ≤ rest.length) :
    lengthBytes noValue <+: rest ↔ lengthOf (rest.take 4) = noValue := by
  have four : (rest.take 4).length = 4 := by rw [List.length_take]; omega
  rw [List.prefix_iff_eq_take,lengthBytesLength]
  constructor
  · intro marker
    rw [← marker,lengthRoundTrip (by decide)]
  · intro marker
    rw [← marker,lengthBytesOf four]

theorem readRequestStuck {s : Stream} {rest : Bytes} (mode : Mode) (h : segments s.arrivals = [rest])
    (stuck : Stuck rest) :
    ∃ s', readRequest s mode = ((requestEnd rest).map fun _ => none,s') ∧ s'.written = s.written := by
  by_cases short : rest.length < 4
  · rcases Stream.readBytesShort mode h short with ⟨_,s',read,after⟩ | ⟨_,s',_,_,after⟩
    · refine ⟨s',?_,after.written⟩
      have marker : ¬ lengthBytes noValue <+: rest := by
        intro leads
        have := leads.length_le
        rw [lengthBytesLength] at this
        omega
      cases rest with
      | nil => simp only [readRequest,read]; rfl
      | cons byte more => simp only [readRequest,read,requestEnd,marker,if_false]; rfl
    · obtain ⟨_,_,some⟩ := segmentsExist s'.arrivals
      rw [after.segments] at some
      contradiction
  · have long : 4 ≤ rest.length := Nat.le_of_not_lt short
    have bytes : rest ≠ [] := by rintro rfl; exact short (by decide)
    obtain ⟨s₁,header,after⟩ := Stream.readBytesComplete (n := 4) mode h long
    by_cases marker : lengthOf (rest.take 4) = noValue
    · have leads := (markerIff long).mpr marker
      refine ⟨s₁,?_,after.written⟩
      simp only [readRequest,header,marker,if_true,requestEnd,bytes,leads,if_false]
      rfl
    · have other : ¬ lengthBytes noValue <+: rest := fun leads => marker ((markerIff long).mp leads)
      have lacks : (rest.drop 4).length < lengthOf (rest.take 4) := by
        refine Nat.lt_of_not_le fun enough => ?_
        refine stuckIff.mp stuck ((rest.drop 4).take (lengthOf (rest.take 4)))
          ((rest.drop 4).drop (lengthOf (rest.take 4))) ?_
        simp only [frame?,short,if_false,marker,enough,if_true]
      rcases Stream.readBytesShort mode after.segments lacks with ⟨_,s₂,read,last⟩ | ⟨_,s₂,_,_,last⟩
      · refine ⟨s₂,?_,last.written.trans after.written⟩
        simp only [readRequest,header,marker,if_false,readPayload,read,requestEnd,bytes,other]
        rfl
      · obtain ⟨_,_,some⟩ := segmentsExist s₂.arrivals
        rw [last.segments] at some
        contradiction

end ScriptConsole.Frame
