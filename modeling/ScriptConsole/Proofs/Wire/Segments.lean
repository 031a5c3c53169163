import ScriptConsole.Wire.Stream

/-! What a stream delivers, without the pieces it comes in: the bytes between two failures that are
not tried again. Reading a fixed number of bytes looks at the first segment alone. -/
namespace ScriptConsole

def prepend (b : Bytes) : List Bytes → List Bytes
  | [] => [b]
  | segment :: later => (b ++ segment) :: later

def segments : List Arrival → List Bytes
  | [] => [[]]
  | .bytes b :: rest => prepend b (segments rest)
  | .fault .interrupted :: rest => segments rest
  | .fault _ :: rest => [] :: segments rest

def Quiet (arrivals : List Arrival) : Prop :=
  ∀ e, Arrival.fault e ∈ arrivals → e = .interrupted

def content : List Arrival → Bytes
  | [] => []
  | .bytes b :: rest => b ++ content rest
  | .fault _ :: rest => content rest

theorem segmentsFault {e : IoError} (final : e ≠ .interrupted) (rest : List Arrival) :
    segments (.fault e :: rest) = [] :: segments rest := by
  cases e <;> first | exact absurd rfl final | rfl

theorem gatherFault {e : IoError} (final : e ≠ .interrupted) {n : Nat} (some : n ≠ 0)
    (rest : List Arrival) : gather n (.fault e :: rest) = ([],.fault e,rest) := by
  cases e <;> first | exact absurd rfl final | simp only [gather,some,if_false]

theorem segmentsExist (arrivals : List Arrival) :
    ∃ segment later, segments arrivals = segment :: later := by
  induction arrivals with
  | nil => exact ⟨[],[],rfl⟩
  | cons arrival rest ih =>
    obtain ⟨segment,later,h⟩ := ih
    cases arrival with
    | bytes b => exact ⟨b ++ segment,later,by rw [segments,h,prepend]⟩
    | fault e =>
      by_cases again : e = .interrupted
      · subst again; exact ⟨segment,later,h⟩
      · exact ⟨[],segments rest,segmentsFault again rest⟩

theorem gatherEnough {arrivals : List Arrival} {segment : Bytes} {later : List Bytes} {n : Nat}
    (h : segments arrivals = segment :: later) (enough : n ≤ segment.length) :
    ∃ left, gather n arrivals = (segment.take n,.complete,left) ∧
      segments left = segment.drop n :: later := by
  induction arrivals generalizing segment n with
  | nil =>
    obtain ⟨rfl,rfl⟩ := List.cons.inj h
    obtain rfl : n = 0 := Nat.le_zero.mp enough
    exact ⟨[],rfl,rfl⟩
  | cons arrival rest ih =>
    by_cases zero : n = 0
    · subst zero; exact ⟨arrival :: rest,rfl,h⟩
    · cases arrival with
      | fault e =>
        by_cases again : e = .interrupted
        · subst again
          obtain ⟨left,read,after⟩ := ih h enough
          exact ⟨left,by simp only [gather,zero,if_false,read],after⟩
        · rw [segmentsFault again] at h
          obtain ⟨rfl,_⟩ := List.cons.inj h
          exact absurd (Nat.le_zero.mp enough) zero
      | bytes b =>
        obtain ⟨tail,later',eq⟩ := segmentsExist rest
        rw [segments,eq,prepend] at h
        obtain ⟨rfl,rfl⟩ := List.cons.inj h
        rw [List.length_append] at enough
        -- the piece is too short, too long, or just right; a long one leaves its rest in front
        by_cases more : b.length < n
        · obtain ⟨left,read,after⟩ := ih (n := n - b.length) eq (by omega)
          refine ⟨left,?_,?_⟩
          · simp only [gather,zero,if_false,more,if_true,read]
            rw [List.take_append,List.take_of_length_le (by omega : b.length ≤ n)]
          · rw [after,List.drop_append,List.drop_of_length_le (by omega : b.length ≤ n),List.nil_append]
        · have front : (b ++ tail).take n = b.take n := List.take_append_of_le_length (by omega)
          have back : (b ++ tail).drop n = b.drop n ++ tail := List.drop_append_of_le_length (by omega)
          by_cases exactly : b.length = n
          · refine ⟨rest,by simp only [gather,zero,if_false,Nat.lt_irrefl,if_true,exactly,front],?_⟩
            rw [eq,back,List.drop_of_length_le (by omega),List.nil_append]
          · refine ⟨.bytes (b.drop n) :: rest,?_,by rw [segments,eq,prepend,back]⟩
            simp only [gather,zero,if_false,more,exactly,front]

theorem gatherShort {arrivals : List Arrival} {segment : Bytes} {later : List Bytes} {n : Nat}
    (h : segments arrivals = segment :: later) (short : segment.length < n) :
    (later = [] ∧ gather n arrivals = (segment,.endOfStream,[])) ∨
      ∃ e left, e ≠ .interrupted ∧ gather n arrivals = (segment,.fault e,left) ∧
        segments left = later := by
  induction arrivals generalizing segment n with
  | nil =>
    obtain ⟨rfl,rfl⟩ := List.cons.inj h
    have some : n ≠ 0 := by intro zero; simp [zero] at short
    exact .inl ⟨rfl,by simp only [gather,some,if_false]⟩
  | cons arrival rest ih =>
    have zero : n ≠ 0 := by omega
    cases arrival with
    | fault e =>
      by_cases again : e = .interrupted
      · subst again
        rcases ih h short with ⟨last,read⟩ | ⟨e,left,final,read,after⟩
        · exact .inl ⟨last,by simp only [gather,zero,if_false,read]⟩
        · exact .inr ⟨e,left,final,by simp only [gather,zero,if_false,read],after⟩
      · rw [segmentsFault again] at h
        obtain ⟨rfl,rfl⟩ := List.cons.inj h
        exact .inr ⟨e,rest,again,gatherFault again zero rest,rfl⟩
    | bytes b =>
      obtain ⟨tail,later',eq⟩ := segmentsExist rest
      rw [segments,eq,prepend] at h
      obtain ⟨rfl,rfl⟩ := List.cons.inj h
      rw [List.length_append] at short
      have more : b.length < n := by omega
      rcases ih (n := n - b.length) eq (by omega) with ⟨last,read⟩ | ⟨e,left,final,read,after⟩
      · exact .inl ⟨last,by simp only [gather,zero,if_false,more,if_true,read]⟩
      · exact .inr ⟨e,left,final,by simp only [gather,zero,if_false,more,if_true,read],after⟩

theorem quietSegments {arrivals : List Arrival} (quiet : Quiet arrivals) :
    segments arrivals = [content arrivals] := by
  induction arrivals with
  | nil => rfl
  | cons arrival rest ih =>
    have whole := ih fun e inside => quiet e (List.mem_cons_of_mem _ inside)
    cases arrival with
    | bytes b => rw [segments,whole,prepend,content]
    | fault e =>
      obtain rfl := quiet e (List.mem_cons_self)
      exact whole

theorem soleContent {arrivals : List Arrival} {segment : Bytes} (h : segments arrivals = [segment]) :
    content arrivals = segment := by
  induction arrivals generalizing segment with
  | nil => exact (List.cons.inj h).1
  | cons arrival rest ih =>
    obtain ⟨tail,later,eq⟩ := segmentsExist rest
    cases arrival with
    | bytes b =>
      rw [segments,eq,prepend] at h
      obtain ⟨rfl,rfl⟩ := List.cons.inj h
      rw [content,ih eq]
    | fault e =>
      by_cases again : e = .interrupted
      · subst again
        exact ih h
      · rw [segmentsFault again,eq] at h
        cases h

end ScriptConsole
