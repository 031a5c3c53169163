import ScriptConsole.Proofs.Text.Row

/-! Columns and offsets of one line. A column meets a line at the first offset that is far enough to the
right, or at its end where the line is too short, so the two directions are adjoint: wide characters skip
columns, and characters without a cell share one. -/
namespace ScriptConsole.Text

def OnLine (t : Text) (line : Span) (o k : Nat) : Prop :=
  line.start ≤ o ∧ o ≤ line.stop ∧ column? t o = some k

structure Meets (t : Text) (line : Span) (c o : Nat) : Prop where
  on : ∃ k, OnLine t line o k
  least : ∀ o' k, OnLine t line o' k → c ≤ k → o ≤ o'
  reaches : (∃ o' k, OnLine t line o' k ∧ c ≤ k) → ∃ k, OnLine t line o k ∧ c ≤ k
  short : (¬ ∃ o' k, OnLine t line o' k ∧ c ≤ k) → o = line.stop

structure Adjoint (t : Text) (point : Nat) (line : Span) (column : Nat) : Prop where
  spans : lineSpan? t point = some line
  row : ∃ above content below, Row t above content below ∧ line = ⟨size above,size (above ++ content)⟩
  stands : OnLine t line point column
  meets : ∀ c, ∃ o, offsetAtColumn? t line c = some o ∧ Meets t line c o
  adjoint : ∀ c o, offsetAtColumn? t line c = some o →
    ∀ o' k, OnLine t line o' k → (o ≤ o' ↔ c ≤ k ∨ o' = line.stop)
  monotone : ∀ c c' o o', c ≤ c' → offsetAtColumn? t line c = some o →
    offsetAtColumn? t line c' = some o' → o ≤ o'
  back : ∃ o between, offsetAtColumn? t line column = some o ∧ o ≤ point ∧ column? t o = some column ∧
    slice? t o point = some between ∧ ∀ c ∈ between, cellWidth c = 0

theorem cellsNone {t : Text} (none : cells t = 0) : ∀ c ∈ t, cellWidth c = 0 := by
  induction t with
  | nil => exact nofun
  | cons c rest ih =>
    rw [cellsCons] at none
    intro d inside
    rcases List.mem_cons.mp inside with rfl | later
    · omega
    · exact ih (by omega) d later

theorem landsBefore {c : Nat} {left right front back : Text} (lands : Lands c left right)
    (same : left ++ right = front ++ back) : size left ≤ size front ↔ c ≤ cells front ∨ back = [] := by
  constructor
  · intro lower
    obtain ⟨mid,rfl,rfl⟩ := splitsNested same lower
    rcases lands.reaches with far | none
    · exact .inl (by rw [cellsAppend]; omega)
    · exact .inr (List.append_eq_nil_iff.mp none).2
  · intro far
    refine Nat.le_of_not_lt fun higher => ?_
    obtain ⟨mid,rfl,rfl⟩ := splitsNested same.symm (Nat.le_of_lt higher)
    have more : front ≠ front ++ mid := fun whole => by
      rw [← whole] at higher
      exact Nat.lt_irrefl _ higher
    have early := lands.first front (List.prefix_append front mid) more
    rcases far with far | none
    · omega
    · rw [(List.append_eq_nil_iff.mp none).1,List.append_nil] at more
      exact more rfl

theorem sizeWhole {left right : Text} : size left = size (left ++ right) ↔ right = [] := by
  rw [sizeAppend]
  constructor
  · intro same
    cases right with
    | nil => rfl
    | cons c rest =>
      have more := sizePositive (List.cons_ne_nil c rest)
      omega
  · rintro rfl
    rfl

section
variable {t above line below : Text} (row : Row t above line below)
include row

theorem rowOnLine {o k : Nat} : OnLine t ⟨size above,size (above ++ line)⟩ o k ↔
    ∃ left right, line = left ++ right ∧ o = size (above ++ left) ∧ k = cells left := by
  constructor
  · rintro ⟨start,stop,column⟩
    obtain ⟨⟨before,after⟩,split,_⟩ := Option.map_eq_some_iff.mp column
    obtain ⟨whole,rfl⟩ := splitSound split
    have parts : above ++ (line ++ below) = before ++ after := by
      rw [← whole,row.whole,List.append_assoc]
    obtain ⟨left,rfl,rest⟩ := splitsNested parts start
    have short : size left ≤ size line := by
      simp only [sizeAppend] at stop
      omega
    obtain ⟨right,rfl,_⟩ := splitsNested rest.symm short
    rw [rowColumn row] at column
    exact ⟨left,right,rfl,rfl,(Option.some.inj column).symm⟩
  · rintro ⟨left,right,rfl,rfl,rfl⟩
    exact ⟨by simp only [sizeAppend]; omega,by simp only [sizeAppend]; omega,rowColumn row⟩

theorem rowMeets (c : Nat) : ∃ o, offsetAtColumn? t ⟨size above,size (above ++ line)⟩ c = some o ∧
    Meets t ⟨size above,size (above ++ line)⟩ c o := by
  obtain ⟨left,right,parts,lands,offset⟩ := rowLanding row c
  have on := (rowOnLine row).mpr ⟨left,right,parts,rfl,rfl⟩
  refine ⟨_,offset,⟨_,on⟩,?_,?_,?_⟩
  · intro o' k on' far
    obtain ⟨front,back,parts',rfl,rfl⟩ := (rowOnLine row).mp on'
    have before := (landsBefore lands (parts.symm.trans parts')).mpr (.inl far)
    simp only [sizeAppend]
    omega
  · rintro ⟨o',k,on',far⟩
    obtain ⟨front,back,parts',rfl,rfl⟩ := (rowOnLine row).mp on'
    refine ⟨_,on,?_⟩
    rcases lands.reaches with reached | none
    · exact reached
    · rw [none,List.append_nil] at parts
      rw [← parts,parts',cellsAppend]
      omega
  · intro short
    rcases lands.reaches with reached | none
    · exact absurd ⟨_,_,on,reached⟩ short
    · rw [parts,none,List.append_nil]

theorem rowAdjoint {c o : Nat}
    (found : offsetAtColumn? t ⟨size above,size (above ++ line)⟩ c = some o) {o' k : Nat}
    (on : OnLine t ⟨size above,size (above ++ line)⟩ o' k) :
    o ≤ o' ↔ c ≤ k ∨ o' = size (above ++ line) := by
  obtain ⟨left,right,parts,lands,offset⟩ := rowLanding row c
  obtain ⟨front,back,parts',rfl,rfl⟩ := (rowOnLine row).mp on
  obtain rfl : size (above ++ left) = o := Option.some.inj (offset.symm.trans found)
  rw [parts',← List.append_assoc,sizeWhole,← landsBefore lands (parts.symm.trans parts')]
  simp only [sizeAppend]
  omega

end

theorem rowBack {t above left right below : Text} (row : Row t above (left ++ right) below) :
    ∃ o between, offsetAtColumn? t ⟨size above,size (above ++ (left ++ right))⟩ (cells left) = some o ∧
      o ≤ size (above ++ left) ∧ column? t o = some (cells left) ∧
      slice? t o (size (above ++ left)) = some between ∧ ∀ c ∈ between, cellWidth c = 0 := by
  obtain ⟨front,back,parts,lands,offset⟩ := rowLanding row (cells left)
  have lower := (landsBefore lands parts.symm).mpr (.inl (Nat.le_refl _))
  obtain ⟨between,rfl,rfl⟩ := splitsNested parts.symm lower
  have none : cells between = 0 := by
    rcases lands.reaches with reached | none
    · rw [cellsAppend] at reached
      omega
    · rw [(List.append_eq_nil_iff.mp none).1]
      rfl
  have column : column? t (size (above ++ front)) = some (cells (front ++ between)) := by
    rw [List.append_assoc] at row
    rw [rowColumn row,cellsAppend,none,Nat.add_zero]
  have piece : slice? t (size (above ++ front)) (size (above ++ (front ++ between))) = some between := by
    have whole : t = above ++ front ++ between ++ (right ++ below) := by rw [row.whole]; simp
    rw [whole,← List.append_assoc above,sizeAppend (above ++ front)]
    exact sliceAppend _ _ _
  refine ⟨_,between,offset,?_,column,piece,cellsNone none⟩
  simp only [sizeAppend]
  omega

theorem columnsAdjoint (before after : Text) :
    ∃ line column, Adjoint (before ++ after) (size before) line column := by
  obtain ⟨above,below,row,front,_⟩ := rowExists before after
  have spans := rowSpan row
  have back := rowBack row
  have stands := (rowOnLine row).mpr ⟨openLine before,restOfLine after,rfl,rfl,rfl⟩
  rw [← front] at spans back stands
  refine ⟨_,_,spans,⟨above,_,below,row,rfl⟩,stands,rowMeets row,?_,?_,back⟩
  · exact fun c o found o' k on => rowAdjoint row found on
  · intro c c' o o' less found found'
    obtain ⟨o₁,found₁,meets⟩ := rowMeets row c'
    obtain rfl : o₁ = o' := Option.some.inj (found₁.symm.trans found')
    obtain ⟨k,on⟩ := meets.on
    refine (rowAdjoint row found on).mpr ?_
    exact ((rowAdjoint row found' on).mp (Nat.le_refl _)).imp_left (Nat.le_trans less)

example : column? ['e','\u0301','x'] 3 = some 1 ∧
    offsetAtColumn? ['e','\u0301','x'] ⟨0,4⟩ 1 = some 1 := by decide +kernel

end ScriptConsole.Text
