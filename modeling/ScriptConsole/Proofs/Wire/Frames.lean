import ScriptConsole.Wire.Frame
import ScriptConsole.Proofs.Wire.Segments

/-! The frames of a stream against the bytes it delivers: a frame is read exactly when the first
segment starts with one, it is then all that is taken, and writing appends one. A read that fails
gives up the rest of its segment. -/
namespace ScriptConsole

namespace Stream

def Takes (s : Stream) (n : Nat) : Prop := ∀ room, s.room = some room → n ≤ room

structure Sent (s s' : Stream) (b : Bytes) : Prop where
  arrivals : s'.arrivals = s.arrivals
  room : s'.room = s.room.map (· - b.length)
  written : s'.written = s.written ++ b

structure Received (s s' : Stream) (left : List Bytes) : Prop where
  segments : segments s'.arrivals = left
  room : s'.room = s.room
  written : s'.written = s.written

theorem Sent.append {s s' s'' b b'} (first : Sent s s' b) (second : Sent s' s'' b') :
    Sent s s'' (b ++ b') := by
  refine ⟨second.arrivals.trans first.arrivals,?_,?_⟩
  · rw [second.room,first.room]
    cases s.room with
    | none => rfl
    | some room => simp [Nat.sub_sub]
  · rw [second.written,first.written,List.append_assoc]

theorem useFrame (s : Stream) (a : Access) :
    (s.use a).arrivals = s.arrivals ∧ (s.use a).room = s.room ∧ (s.use a).written = s.written := by
  unfold use
  split <;> exact ⟨rfl,rfl,rfl⟩

theorem writeBytesSent {s : Stream} {b : Bytes} (mode : Mode) (fits : s.Takes b.length) :
    ∃ s', s.writeBytes mode b = (.ok (),s') ∧ s.Sent s' b := by
  cases b with
  | nil =>
    refine ⟨s,rfl,rfl,?_,by simp⟩
    cases s.room <;> simp
  | cons byte b =>
    obtain ⟨arrivals,room,written⟩ := useFrame s (.write mode)
    cases limit : s.room with
    | none =>
      refine ⟨{ s.use (.write mode) with written := (s.use (.write mode)).written ++ byte :: b },?_,
        arrivals,?_,congrArg (· ++ byte :: b) written⟩
      · simp only [writeBytes,List.isEmpty_cons,Bool.false_eq_true,if_false,room,limit]
      · simp only [room,limit,Option.map_none]
    | some n =>
      have enough := fits n limit
      refine ⟨{ s.use (.write mode) with
        written := (s.use (.write mode)).written ++ byte :: b
        room := some (n - (byte :: b).length) },?_,arrivals,?_,congrArg (· ++ byte :: b) written⟩
      · simp only [writeBytes,List.isEmpty_cons,Bool.false_eq_true,if_false,room,limit,enough,if_true,
          List.take_of_length_le enough]
      · simp only [limit,Option.map_some]

theorem writeBytesBroken {s : Stream} {b : Bytes} (mode : Mode) (beyond : ¬ s.Takes b.length) :
    ∃ s', s.writeBytes mode b = (.error .brokenPipe,s') ∧ s'.room = some 0 := by
  cases b with
  | nil => exact absurd (fun room _ => Nat.zero_le room) beyond
  | cons byte b =>
    obtain ⟨_,room,_⟩ := useFrame s (.write mode)
    cases limit : s.room with
    | none => exact absurd (fun room h => by simp [limit] at h) beyond
    | some n =>
      have short : ¬ (byte :: b).length ≤ n := by
        intro enough
        apply beyond
        intro room h
        rw [limit] at h
        cases h
        exact enough
      refine ⟨{ s.use (.write mode) with
        written := (s.use (.write mode)).written ++ (byte :: b).take n
        room := some (n - (byte :: b).length) },?_,?_⟩
      · simp only [writeBytes,List.isEmpty_cons,Bool.false_eq_true,if_false,room,limit,short]
      · exact congrArg some (by omega)

theorem readBytesComplete {s : Stream} {segment : Bytes} {later : List Bytes} {n : Nat}
    (mode : Mode) (h : ScriptConsole.segments s.arrivals = segment :: later)
    (enough : n ≤ segment.length) :
    ∃ s', s.readBytes mode n = (segment.take n,.complete,s') ∧
      s.Received s' (segment.drop n :: later) := by
  obtain ⟨left,read,after⟩ := gatherEnough h enough
  obtain ⟨_,room,written⟩ := useFrame s (.read mode)
  simp only [readBytes,read]
  split
  · exact ⟨_,rfl,after,rfl,rfl⟩
  · exact ⟨_,rfl,after,room,written⟩

theorem readBytesShort {s : Stream} {segment : Bytes} {later : List Bytes} {n : Nat}
    (mode : Mode) (h : ScriptConsole.segments s.arrivals = segment :: later)
    (short : segment.length < n) :
    (later = [] ∧ ∃ s', s.readBytes mode n = (segment,.endOfStream,s') ∧ s.Received s' [[]]) ∨
      ∃ e s', e ≠ .interrupted ∧ s.readBytes mode n = (segment,.fault e,s') ∧
        s.Received s' later := by
  obtain ⟨_,room,written⟩ := useFrame s (.read mode)
  have some : n ≠ 0 := by omega
  rcases gatherShort h short with ⟨last,read⟩ | ⟨e,left,final,read,after⟩
  · exact .inl ⟨last,{ s.use (.read mode) with arrivals := [] },
      by simp only [readBytes,read,some,if_false],rfl,room,written⟩
  · exact .inr ⟨e,{ s.use (.read mode) with arrivals := left },final,
      by simp only [readBytes,read,some,if_false],after,room,written⟩

end Stream

namespace Frame

def frameBytes : Option Bytes → Bytes
  | none => lengthBytes noValue
  | some payload => lengthBytes payload.length ++ payload

def frame? (bytes : Bytes) : Option (Option Bytes × Bytes) :=
  if bytes.length < 4 then none
  else
    let n := lengthOf (bytes.take 4)
    let rest := bytes.drop 4
    if n = noValue then some (none,rest)
    else if n ≤ rest.length then some (some (rest.take n),rest.drop n)
    else none

def Fits (payload : Option Bytes) : Prop := ∀ p, payload = some p → p.length < noValue

theorem lengthBytesLength (n : Nat) : (lengthBytes n).length = 4 := rfl

theorem lengthRoundTrip {n : Nat} (bound : n < 4294967296) : lengthOf (lengthBytes n) = n := by
  simp only [lengthOf,lengthBytes,List.foldr_cons,List.foldr_nil,Nat.toUInt8,UInt8.toNat_ofNat']
  omega

theorem frameBack {payload : Option Bytes} (fits : Fits payload) (rest : Bytes) :
    frame? (frameBytes payload ++ rest) = some (payload,rest) := by
  cases payload with
  | none =>
    have long : ¬ (frameBytes none ++ rest).length < 4 := by
      simp only [frameBytes,List.length_append,lengthBytesLength]; omega
    have front : (frameBytes none ++ rest).take 4 = lengthBytes noValue :=
      List.take_left' (lengthBytesLength noValue)
    have back : (frameBytes none ++ rest).drop 4 = rest :=
      List.drop_left' (lengthBytesLength noValue)
    simp only [frame?,long,if_false,front,back,lengthRoundTrip (n := noValue) (by decide),if_true]
  | some p =>
    have bound : p.length < 4294967295 := fits p rfl
    have long : ¬ (frameBytes (some p) ++ rest).length < 4 := by
      simp only [frameBytes,List.length_append,lengthBytesLength]; omega
    have front : (frameBytes (some p) ++ rest).take 4 = lengthBytes p.length := by
      rw [frameBytes,List.append_assoc]
      exact List.take_left' (lengthBytesLength p.length)
    have back : (frameBytes (some p) ++ rest).drop 4 = p ++ rest := by
      rw [frameBytes,List.append_assoc]
      exact List.drop_left' (lengthBytesLength p.length)
    have marker : ¬ p.length = noValue := Nat.ne_of_lt bound
    have whole : p.length ≤ (p ++ rest).length := by rw [List.length_append]; omega
    simp only [frame?,long,if_false,front,back,lengthRoundTrip (n := p.length) (by omega),marker,whole,
      if_true,List.take_left,List.drop_left]

theorem frameEmpty : frame? [] = none := rfl

theorem fourBytes {header : Bytes} (four : header.length = 4) : ∃ a b c d : UInt8,
    header = [a,b,c,d] ∧ a.toNat < 256 ∧ b.toNat < 256 ∧ c.toNat < 256 ∧ d.toNat < 256 := by
  match header,four with
  | [a,b,c,d],_ => exact ⟨a,b,c,d,rfl,a.toNat_lt,b.toNat_lt,c.toNat_lt,d.toNat_lt⟩

theorem lengthOfBound {header : Bytes} (four : header.length = 4) : lengthOf header < 4294967296 := by
  obtain ⟨a,b,c,d,rfl,_,_,_,_⟩ := fourBytes four
  simp only [lengthOf,List.foldr_cons,List.foldr_nil]
  omega

theorem lengthBytesOf {header : Bytes} (four : header.length = 4) : lengthBytes (lengthOf header) = header := by
  obtain ⟨a,b,c,d,rfl,_,_,_,_⟩ := fourBytes four
  simp only [lengthOf,lengthBytes,List.foldr_cons,List.foldr_nil,List.cons.injEq,← UInt8.toNat_inj,
    Nat.toUInt8,UInt8.toNat_ofNat',and_true]
  refine ⟨?_,?_,?_,?_⟩ <;> omega

theorem frameSound {bytes rest : Bytes} {payload : Option Bytes} (found : frame? bytes = some (payload,rest)) :
    bytes = frameBytes payload ++ rest ∧ Fits payload := by
  unfold frame? at found
  split at found
  · contradiction
  · rename_i long
    have four : (bytes.take 4).length = 4 := by rw [List.length_take]; omega
    have header := lengthBytesOf four
    have bound := lengthOfBound four
    have whole := List.take_append_drop 4 bytes
    dsimp only at found
    split at found
    · rename_i marker
      cases found
      rw [marker] at header
      exact ⟨by rw [frameBytes,header,whole],nofun⟩
    · rename_i marker
      split at found
      · rename_i enough
        cases found
        have size : ((bytes.drop 4).take (lengthOf (bytes.take 4))).length = lengthOf (bytes.take 4) := by
          rw [List.length_take]; omega
        refine ⟨?_,?_⟩
        · rw [frameBytes,size,header,List.append_assoc,List.take_append_drop,whole]
        · rintro p ⟨⟩
          rw [size]
          unfold noValue at marker ⊢
          omega
      · contradiction

theorem frameCut {payload : Option Bytes} (fits : Fits payload) {cut : Nat}
    (short : cut < (frameBytes payload).length) : frame? ((frameBytes payload).take cut) = none := by
  cases found : frame? ((frameBytes payload).take cut) with
  | none => rfl
  | some frame =>
    obtain ⟨payload',rest⟩ := frame
    obtain ⟨whole,fits'⟩ := frameSound found
    have uncut := frameBack fits []
    rw [List.append_nil] at uncut
    have again := frameBack fits' (rest ++ (frameBytes payload).drop cut)
    rw [← List.append_assoc,← whole,List.take_append_drop,uncut] at again
    simp only [Option.some.injEq,Prod.mk.injEq,List.nil_eq_append_iff,List.drop_eq_nil_iff] at again
    omega

theorem readPayloadComplete {s : Stream} {segment : Bytes} {later : List Bytes} {n : Nat}
    (mode : Mode) (h : segments s.arrivals = segment :: later) (enough : n ≤ segment.length) :
    ∃ s', readPayload s mode n = (.ok (segment.take n),s') ∧
      s.Received s' (segment.drop n :: later) := by
  obtain ⟨s',read,after⟩ := Stream.readBytesComplete mode h enough
  exact ⟨s',by rw [readPayload,read],after⟩

theorem Received.trans {s s' s'' : Stream} {left left' : List Bytes} (first : s.Received s' left)
    (second : s'.Received s'' left') : s.Received s'' left' :=
  ⟨second.segments,second.room.trans first.room,second.written.trans first.written⟩

/- The two readers agree on every frame with a payload; only a response may be the marker. -/
theorem readResponseFrame {s : Stream} {segment rest : Bytes} {later : List Bytes}
    {payload : Option Bytes} (mode : Mode) (h : segments s.arrivals = segment :: later)
    (frame : frame? segment = some (payload,rest)) :
    ∃ s', readResponse s mode = (.ok payload,s') ∧ s.Received s' (rest :: later) := by
  unfold frame? at frame
  split at frame
  · contradiction
  · obtain ⟨s₁,header,after⟩ := Stream.readBytesComplete (n := 4) mode h (by omega)
    simp only at frame
    split at frame
    · rename_i marker
      cases frame
      exact ⟨s₁,by simp only [readResponse,header,marker,if_true],after⟩
    · rename_i marker
      split at frame
      · rename_i enough
        cases frame
        obtain ⟨s₂,body,last⟩ := readPayloadComplete mode after.segments enough
        exact ⟨s₂,by simp only [readResponse,header,marker,if_false,body],Received.trans after last⟩
      · contradiction

theorem readRequestFrame {s : Stream} {segment rest p : Bytes} {later : List Bytes} (mode : Mode)
    (h : segments s.arrivals = segment :: later) (frame : frame? segment = some (some p,rest)) :
    ∃ s', readRequest s mode = (.ok (some p),s') ∧ s.Received s' (rest :: later) := by
  unfold frame? at frame
  split at frame
  · contradiction
  · obtain ⟨s₁,header,after⟩ := Stream.readBytesComplete (n := 4) mode h (by omega)
    simp only at frame
    split at frame
    · cases frame
    · rename_i marker
      split at frame
      · rename_i enough
        cases frame
        obtain ⟨s₂,body,last⟩ := readPayloadComplete mode after.segments enough
        exact ⟨s₂,by simp only [readRequest,header,marker,if_false,body],Received.trans after last⟩
      · contradiction

theorem readResponseFails {s : Stream} {segment : Bytes} {later : List Bytes} (mode : Mode)
    (h : segments s.arrivals = segment :: later) (broken : frame? segment = none) :
    ∃ e s', readResponse s mode = (.error e,s') ∧ (later = [] → e = .closed) ∧
      s.Received s' (if later = [] then [[]] else later) := by
  unfold frame? at broken
  have left : ∀ s₁ : Stream, segments s₁.arrivals = later → later ≠ [] := by
    intro s₁ eq last
    obtain ⟨_,_,some⟩ := segmentsExist s₁.arrivals
    rw [eq,last] at some
    contradiction
  split at broken
  · rename_i short
    rcases Stream.readBytesShort mode h short with ⟨last,s',read,after⟩ | ⟨e,s',_,read,after⟩
    · refine ⟨.closed,s',by simp only [readResponse,read],fun _ => rfl,?_⟩
      rw [if_pos last]
      exact after
    · refine ⟨if e = .unexpectedEof then .closed else .io e,s',by simp only [readResponse,read],
        fun last => absurd last (left s' after.segments),?_⟩
      rw [if_neg (left s' after.segments)]
      exact after
  · obtain ⟨s₁,header,after⟩ := Stream.readBytesComplete (n := 4) mode h (by omega)
    simp only at broken
    split at broken
    · contradiction
    · rename_i marker
      split at broken
      · contradiction
      · rename_i short
        rcases Stream.readBytesShort mode after.segments (Nat.lt_of_not_le short) with
          ⟨last,s₂,read,final⟩ | ⟨e,s₂,_,read,final⟩
        · refine ⟨.closed,s₂,by simp only [readResponse,header,marker,if_false,readPayload,read],fun _ => rfl,?_⟩
          rw [if_pos last]
          exact Received.trans after final
        · refine ⟨.io e,s₂,by simp only [readResponse,header,marker,if_false,readPayload,read],
            fun last => absurd last (left s₂ final.segments),?_⟩
          rw [if_neg (left s₂ final.segments)]
          exact Received.trans after final

theorem writeTooLarge {s : Stream} {payload : Bytes} (mode : Mode) (large : noValue ≤ payload.length) :
    write s mode payload = (.error (.tooLarge payload.length),s) := by
  simp only [write,encode?,Nat.not_lt.mpr large,if_false]

theorem takesAfter {s s' : Stream} {b : Bytes} {n : Nat} (sent : s.Sent s' b) :
    s.Takes (b.length + n) → s'.Takes n := by
  intro fits room h
  rw [sent.room] at h
  cases limit : s.room with
  | none => simp [limit] at h
  | some limit' =>
    have bound := fits limit' limit
    rw [limit,Option.map_some] at h
    obtain rfl := Option.some.inj h
    omega

theorem writeSent {s : Stream} {payload : Bytes} (mode : Mode) (small : payload.length < noValue)
    (fits : s.Takes (4 + payload.length)) :
    ∃ s', write s mode payload = (.ok (),s') ∧ s.Sent s' (frameBytes (some payload)) := by
  have header : s.Takes (lengthBytes payload.length).length := fun room h =>
    Nat.le_trans (Nat.le_add_right 4 _) (fits room h)
  obtain ⟨s₁,first,sent⟩ := Stream.writeBytesSent mode header
  obtain ⟨s₂,second,sent'⟩ := Stream.writeBytesSent mode (takesAfter sent fits)
  exact ⟨s₂,by simp only [write,encode?,small,if_true,first,second],sent.append sent'⟩

theorem writeNoValueSent {s : Stream} (mode : Mode) (fits : s.Takes 4) :
    ∃ s', writeNoValue s mode = (.ok (),s') ∧ s.Sent s' (frameBytes none) := by
  obtain ⟨s',write,sent⟩ := Stream.writeBytesSent (b := lengthBytes noValue) mode fits
  exact ⟨s',by simp only [writeNoValue,write],sent⟩

theorem writeBroken {s : Stream} {payload : Bytes} (mode : Mode) (small : payload.length < noValue)
    (beyond : ¬ s.Takes (4 + payload.length)) :
    ∃ s', write s mode payload = (.error (.io .brokenPipe),s') ∧ s'.room = some 0 := by
  by_cases header : s.Takes (lengthBytes payload.length).length
  · obtain ⟨s₁,first,sent⟩ := Stream.writeBytesSent mode header
    have rest : ¬ s₁.Takes payload.length := by
      intro fits
      apply beyond
      intro room h
      have some := fits (room - 4) (by rw [sent.room,h]; rfl)
      have four := header room h
      rw [lengthBytesLength] at four
      omega
    obtain ⟨s₂,second,none⟩ := Stream.writeBytesBroken mode rest
    exact ⟨s₂,by simp only [write,encode?,small,if_true,first,second],none⟩
  · obtain ⟨s₁,first,none⟩ := Stream.writeBytesBroken mode header
    exact ⟨s₁,by simp only [write,encode?,small,if_true,first],none⟩

end Frame

end ScriptConsole
