import ScriptConsole.Target.Channel
import ScriptConsole.Proofs.Text.Utf8
import ScriptConsole.Proofs.Wire.Frames

/-! The four ways one exchange can go, and what each leaves of the stream. -/
namespace ScriptConsole.Channel
open ScriptConsole.Frame

def Sendable (t : Text) : Prop := (Utf8.encode t).length < noValue

instance (t : Text) : Decidable (Sendable t) := inferInstanceAs (Decidable (_ < _))

def requestBytes (source : Text) : Bytes := frameBytes (some (Utf8.encode source))

def replyOf : Option Bytes → Reply
  | none => .noValue
  | some payload => .value (Utf8.decodeLossy payload)

structure Exchanged (s s' : Stream) (source : Text) (left : List Bytes) : Prop where
  segments : segments s'.arrivals = left
  room : s'.room = s.room.map (· - (requestBytes source).length)
  written : s'.written = s.written ++ requestBytes source

theorem exchanged {s s₁ s₂ : Stream} {source : Text} {left : List Bytes}
    (sent : s.Sent s₁ (requestBytes source)) (got : s₁.Received s₂ left) :
    Exchanged s s₂ source left :=
  ⟨got.segments,got.room.trans sent.room,got.written.trans sent.written⟩

theorem requestLength (source : Text) :
    (requestBytes source).length = 4 + (Utf8.encode source).length := by
  simp only [requestBytes,frameBytes,List.length_append,lengthBytesLength]

theorem exchangeTooLarge {source : Text} (s : Stream) (large : ¬ Sendable source) :
    exchange s source = (.error (.tooLarge (Utf8.encode source).length),s) := by
  simp only [exchange,writeTooLarge .sendingRequest (Nat.not_lt.mp large)]

theorem exchangeBroken {s : Stream} {source : Text} (small : Sendable source)
    (beyond : ¬ s.Takes (requestBytes source).length) :
    ∃ s', exchange s source = (.error (.io .brokenPipe),s') ∧ s'.room = some 0 := by
  rw [requestLength] at beyond
  obtain ⟨s',write,none⟩ := writeBroken .sendingRequest small beyond
  exact ⟨s',by simp only [exchange,write],none⟩

theorem exchangeAnswered {s : Stream} {source : Text} {segment rest : Bytes} {later : List Bytes}
    {payload : Option Bytes} (small : Sendable source) (fits : s.Takes (requestBytes source).length)
    (h : segments s.arrivals = segment :: later) (frame : frame? segment = some (payload,rest)) :
    ∃ s', exchange s source = (.ok (replyOf payload),s') ∧ Exchanged s s' source (rest :: later) := by
  rw [requestLength] at fits
  obtain ⟨s₁,write,sent⟩ := writeSent .sendingRequest small fits
  obtain ⟨s₂,read,got⟩ := readResponseFrame .awaitingResponse (by rw [sent.arrivals,h]) frame
  refine ⟨s₂,?_,exchanged sent got⟩
  cases payload <;> simp only [exchange,write,read,replyOf]

theorem exchangeUnanswered {s : Stream} {source : Text} {segment : Bytes} {later : List Bytes}
    (small : Sendable source) (fits : s.Takes (requestBytes source).length)
    (h : segments s.arrivals = segment :: later) (broken : frame? segment = none) :
    ∃ e s', exchange s source = (.error e,s') ∧
      Exchanged s s' source (if later = [] then [[]] else later) := by
  rw [requestLength] at fits
  obtain ⟨s₁,write,sent⟩ := writeSent .sendingRequest small fits
  obtain ⟨e,s₂,read,_,got⟩ := readResponseFails .awaitingResponse (by rw [sent.arrivals,h]) broken
  exact ⟨e,s₂,by simp only [exchange,write,read],exchanged sent got⟩

end ScriptConsole.Channel
