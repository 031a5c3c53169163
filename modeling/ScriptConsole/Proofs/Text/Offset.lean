import ScriptConsole.Text.Offset

/-! Byte offsets and the two parts of a text. A split is an append read backwards: it exists exactly
at the good offsets, and `floorOffset` is the last good offset not after its argument. -/
namespace ScriptConsole.Text

theorem sizeAppend (a b : Text) : size (a ++ b) = size a + size b := by
  induction a with
  | nil => simp [size]
  | cons c rest ih => simp only [List.cons_append,size,ih]; omega

theorem splitAppend (before after : Text) :
    split? (before ++ after) (size before) = some (before,after) := by
  induction before with
  | nil => cases after <;> rfl
  | cons c rest ih =>
    have positive := c.utf8Size_pos
    obtain ⟨n,hn⟩ : ∃ n, c.utf8Size + size rest = n + 1 := ⟨c.utf8Size + size rest - 1,by omega⟩
    have left : n + 1 - c.utf8Size = size rest := by omega
    simp only [List.cons_append,size,hn,split?]
    rw [if_pos (by omega),left,ih]
    rfl

theorem splitSound {t n before after} (h : split? t n = some (before,after)) :
    t = before ++ after ∧ n = size before := by
  induction t generalizing n before after with
  | nil =>
    cases n with
    | zero => simp [split?] at h; obtain ⟨rfl,rfl⟩ := h; exact ⟨rfl,rfl⟩
    | succ n => simp [split?] at h
  | cons c rest ih =>
    cases n with
    | zero => simp [split?] at h; obtain ⟨rfl,rfl⟩ := h; exact ⟨rfl,rfl⟩
    | succ n =>
      simp only [split?] at h
      split at h <;> try contradiction
      rename_i fits
      obtain ⟨⟨front,back⟩,hs,same⟩ := Option.map_eq_some_iff.mp h
      cases same
      obtain ⟨whole,offset⟩ := ih hs
      refine ⟨by rw [whole]; rfl,?_⟩
      simp only [size]; omega

theorem splitSize (t : Text) : split? t (size t) = some (t,[]) := by
  simpa using splitAppend t []

theorem sliceAppend (a b c : Text) :
    slice? (a ++ b ++ c) (size a) (size a + size b) = some b := by
  have ordered : ¬ size a + size b < size a := by omega
  have inner : size a + size b - size a = size b := by omega
  simp only [slice?,ordered,if_false,List.append_assoc,splitAppend,inner,bind,Option.bind]

theorem floorSplits (t : Text) (n : Nat) :
    ∃ before after, t = before ++ after ∧ floorOffset t n = size before := by
  induction t generalizing n with
  | nil => exact ⟨[],[],rfl,rfl⟩
  | cons c rest ih =>
    by_cases fits : c.utf8Size ≤ n
    · obtain ⟨before,after,rfl,hf⟩ := ih (n - c.utf8Size)
      exact ⟨c :: before,after,rfl,by simp [floorOffset,fits,hf,size]⟩
    · exact ⟨[],c :: rest,rfl,by simp [floorOffset,fits,size]⟩

theorem floorFits (t : Text) (n : Nat) : floorOffset t n ≤ n := by
  induction t generalizing n with
  | nil => exact Nat.zero_le n
  | cons c rest ih =>
    have below := ih (n - c.utf8Size)
    rw [floorOffset]
    split <;> omega

theorem floorGreatest (before after : Text) {n : Nat} (fits : size before ≤ n) :
    size before ≤ floorOffset (before ++ after) n := by
  induction before generalizing n with
  | nil => exact Nat.zero_le _
  | cons c rest ih =>
    rw [size] at fits
    have above := ih (n := n - c.utf8Size) (by omega)
    rw [List.cons_append,floorOffset,if_pos (by omega),size]
    omega

theorem floorAppend (before after : Text) : floorOffset (before ++ after) (size before) = size before :=
  Nat.le_antisymm (floorFits _ _) (floorGreatest before after (Nat.le_refl _))

theorem sizePositive {t : Text} (some : t ≠ []) : 0 < size t := by
  cases t with
  | nil => exact absurd rfl some
  | cons c rest => exact Nat.add_pos_left c.utf8Size_pos (size rest)

theorem splitsSame {a b c d : Text} (same : a ++ b = c ++ d) (sizes : size a = size c) : a = c ∧ b = d := by
  have left := splitAppend a b
  rw [same,sizes,splitAppend] at left
  cases left
  exact ⟨rfl,rfl⟩

theorem splitsNested {a b c d : Text} (same : a ++ b = c ++ d) (lower : size a ≤ size c) :
    ∃ mid, c = a ++ mid ∧ b = mid ++ d := by
  rcases List.append_eq_append_iff.mp same with ⟨mid,left,right⟩ | ⟨mid,left,right⟩
  · exact ⟨mid,left,right⟩
  · cases mid with
    | nil => exact ⟨[],by simpa using left.symm,by simpa using right.symm⟩
    | cons e more =>
      have content := sizePositive (List.cons_ne_nil e more)
      rw [left,sizeAppend] at lower
      omega

theorem startsWithIff {t lead : Text} : startsWith t lead = true ↔ lead <+: t := by
  induction lead generalizing t with
  | nil => simp [startsWith]
  | cons d lead ih =>
    cases t with
    | nil => simp [startsWith]
    | cons c rest =>
      simp only [startsWith,Bool.and_eq_true,beq_iff_eq,ih,List.cons_prefix_cons,eq_comm (a := c)]

theorem dropLeadIff {t lead rest : Text} : dropLead? t lead = some rest ↔ t = lead ++ rest := by
  induction lead generalizing t with
  | nil => simp [dropLead?]
  | cons d lead ih =>
    cases t with
    | nil => simp [dropLead?]
    | cons c more =>
      by_cases same : c = d
      · subst same
        simp only [dropLead?,if_true,ih,List.cons_append,List.cons.injEq,true_and]
      · simp [dropLead?,same]

end ScriptConsole.Text
