import ScriptConsole.Proofs.Text.Line

/-! The lines of a text in their order. A row is a line together with the text above and below it; a
column of it has one landing place, the first offset that is far enough to the right. -/
namespace ScriptConsole.Text

def rows (t : Text) : List Text := splitOn '\n' t

theorem rowsSole {a : Text} (one : '\n' ∉ a) : rows a = [a] := by
  induction a with
  | nil => rfl
  | cons c rest ih =>
    have differs : c ≠ '\n' := Ne.symm (List.ne_of_not_mem_cons one)
    rw [rows] at ih
    simp only [rows,splitOn,if_neg differs,ih (List.not_mem_of_not_mem_cons one)]

theorem rowsExist (t : Text) : ∃ first rest, rows t = first :: rest := by
  cases t with
  | nil => exact ⟨[],[],rfl⟩
  | cons c rest =>
    rw [rows,splitOn]
    split
    · exact ⟨[],_,rfl⟩
    · split
      · exact ⟨_,_,rfl⟩
      · exact ⟨[c],[],rfl⟩

theorem rowsAppend (a b : Text) : rows (a ++ '\n' :: b) = rows a ++ rows b := by
  induction a with
  | nil => rfl
  | cons c rest ih =>
    rw [rows] at ih
    by_cases newline : c = '\n'
    · simp only [List.cons_append,rows,splitOn,if_pos newline,ih]
    · obtain ⟨first,others,shape⟩ := rowsExist rest
      rw [rows] at shape
      simp only [List.cons_append,rows,splitOn,if_neg newline,ih,shape]

theorem rowsLength (t : Text) : (rows t).length = t.count '\n' + 1 := by
  induction t with
  | nil => rfl
  | cons c rest ih =>
    obtain ⟨first,others,shape⟩ := rowsExist rest
    rw [rows] at ih shape
    by_cases newline : c = '\n'
    · subst newline
      simp only [rows,splitOn,if_true,List.length_cons,ih,List.count_cons_self]
    · rw [shape] at ih
      simp only [rows,splitOn,if_neg newline,shape,List.count_cons_of_ne newline]
      exact ih

structure Row (t above line below : Text) : Prop where
  whole : t = above ++ line ++ below
  one : '\n' ∉ line
  top : above = [] ∨ ∃ front, above = front ++ ['\n']
  bottom : below = [] ∨ ∃ rest, below = '\n' :: rest

theorem countNone {t : Text} (one : '\n' ∉ t) : t.count '\n' = 0 := List.count_eq_zero.mpr one

theorem rowAt {t above line below : Text} (row : Row t above line below) :
    (rows t)[above.count '\n']? = some line := by
  have lower : ∃ others, rows (line ++ below) = line :: others := by
    rcases row.bottom with rfl | ⟨rest,rfl⟩
    · exact ⟨[],by rw [List.append_nil,rowsSole row.one]⟩
    · exact ⟨rows rest,by rw [rowsAppend,rowsSole row.one]; rfl⟩
  obtain ⟨others,first⟩ := lower
  rcases row.top with rfl | ⟨front,rfl⟩
  · rw [row.whole,List.nil_append,first]
    rfl
  · have parts : front ++ ['\n'] ++ line ++ below = front ++ '\n' :: (line ++ below) := by simp
    have count : (front ++ ['\n']).count '\n' = (rows front).length := by
      rw [rowsLength,List.count_append]; rfl
    rw [row.whole,parts,rowsAppend,first,count,List.getElem?_append_right (Nat.le_refl _),Nat.sub_self]
    rfl

theorem restOfLineOne (after : Text) : '\n' ∉ restOfLine after := by
  intro inside
  have passed := List.all_eq_true.mp List.all_takeWhile '\n' inside
  contradiction

theorem openLineOne (before : Text) : '\n' ∉ openLine before := by
  intro inside
  exact restOfLineOne before.reverse (List.mem_reverse.mp inside)

theorem rowExists (before after : Text) :
    ∃ above below, Row (before ++ after) above (openLine before ++ restOfLine after) below ∧
      before = above ++ openLine before ∧ after = restOfLine after ++ below := by
  obtain ⟨above,front,top⟩ := openLineParts before
  have back : ∃ below, after = restOfLine after ++ below ∧ (below = [] ∨ ∃ rest, below = '\n' :: rest) := by
    by_cases last : restOfLine after = after
    · exact ⟨[],by rw [last,List.append_nil],.inl rfl⟩
    · obtain ⟨post,parts⟩ := lineBelow after last
      exact ⟨'\n' :: post,parts,.inr ⟨post,rfl⟩⟩
  obtain ⟨below,back,bottom⟩ := back
  refine ⟨above,below,⟨?_,?_,top,bottom⟩,front,back⟩
  · calc before ++ after = (above ++ openLine before) ++ (restOfLine after ++ below) := by rw [← front,← back]
      _ = above ++ (openLine before ++ restOfLine after) ++ below := by simp
  · intro inside
    rcases List.mem_append.mp inside with left | right
    · exact openLineOne before left
    · exact restOfLineOne after right

section
variable {t above left right below : Text} (row : Row t above (left ++ right) below)
include row

theorem rowLeft : '\n' ∉ left ∧ '\n' ∉ right :=
  ⟨fun inside => row.one (List.mem_append_left _ inside),fun inside => row.one (List.mem_append_right _ inside)⟩

theorem rowParts : t = (above ++ left) ++ (right ++ below) := by
  rw [row.whole]; simp

theorem rowRestOfLine : restOfLine (right ++ below) = right := by
  have front : ∀ c ∈ right, (c != '\n') = true := fun c inside =>
    bne_iff_ne.mpr fun same => (rowLeft row).2 (same ▸ inside)
  rw [restOfLine,List.takeWhile_append_of_pos front]
  rcases row.bottom with rfl | ⟨rest,rfl⟩
  · exact List.append_nil right
  · exact List.append_nil right

theorem rowOpenLine : openLine (above ++ left) = left := by
  have back : ∀ c ∈ left.reverse, (c != '\n') = true := fun c inside =>
    bne_iff_ne.mpr fun same => (rowLeft row).1 (List.mem_reverse.mp (same ▸ inside))
  rw [openLine,List.reverse_append,List.takeWhile_append_of_pos back]
  rcases row.top with rfl | ⟨front,rfl⟩
  · simp
  · simp

theorem rowStart : lineStart? t (size (above ++ left)) = some (size above) := by
  rw [lineStart?,rowParts row,splitAppend]
  simp only [Option.map_some,rowOpenLine row,sizeAppend,Nat.add_sub_cancel]

theorem rowStop : lineEnd? t (size (above ++ left)) = some (size (above ++ (left ++ right))) := by
  rw [rowParts row,lineEndAt,rowRestOfLine row,← List.append_assoc,sizeAppend (above ++ left)]

theorem rowColumn : column? t (size (above ++ left)) = some (cells left) := by
  rw [rowParts row,columnAt,rowOpenLine row]

theorem rowSpan : lineSpan? t (size (above ++ left)) = some ⟨size above,size (above ++ (left ++ right))⟩ := by
  rw [lineSpan?,rowStart row,rowStop row]
  rfl

end

theorem rowSpanStart {t above line below : Text} (row : Row t above line below) :
    lineSpan? t (size above) = some ⟨size above,size (above ++ line)⟩ := by
  have whole : Row t above ([] ++ line) below := row
  have span := rowSpan whole
  rwa [List.append_nil] at span

theorem rowSpanStop {t above line below : Text} (row : Row t above line below) :
    lineSpan? t (size (above ++ line)) = some ⟨size above,size (above ++ line)⟩ := by
  have whole : Row t above (line ++ []) below := by rwa [List.append_nil]
  have span := rowSpan whole
  rwa [List.append_nil] at span

/- Where a vertical move comes to stand in a line: at the first place whose column is not too small, or
at the line's end. -/
structure Lands (column : Nat) (left right : Text) : Prop where
  reaches : column ≤ cells left ∨ right = []
  first : ∀ shorter, shorter <+: left → shorter ≠ left → cells shorter < column

theorem bytesLand (column at_ : Nat) (line : Text) :
    ∃ left right, line = left ++ right ∧ bytesToColumn column at_ line = size left ∧
      (column ≤ at_ + cells left ∨ right = []) ∧
      ∀ shorter, shorter <+: left → shorter ≠ left → at_ + cells shorter < column := by
  induction line generalizing at_ with
  | nil => exact ⟨[],[],rfl,rfl,.inr rfl,fun shorter front differs => absurd (List.prefix_nil.mp front) differs⟩
  | cons c rest ih =>
    rw [bytesToColumn]
    by_cases far : column ≤ at_
    · refine ⟨[],c :: rest,rfl,by rw [if_pos far]; rfl,.inl (Nat.le_trans far (Nat.le_add_right _ _)),?_⟩
      exact fun shorter front differs => absurd (List.prefix_nil.mp front) differs
    · obtain ⟨left,right,parts,offset,reaches,first⟩ := ih (at_ + cellWidth c)
      refine ⟨c :: left,right,by rw [parts]; rfl,by rw [if_neg far,offset]; rfl,?_,?_⟩
      · rw [cellsCons,← Nat.add_assoc]
        exact reaches
      · intro shorter front differs
        cases shorter with
        | nil => exact Nat.lt_of_not_le far
        | cons d shorter =>
          obtain ⟨rfl,front'⟩ := List.cons_prefix_cons.mp front
          rw [cellsCons,← Nat.add_assoc]
          exact first shorter front' fun same => differs (by rw [same])

theorem rowLanding {t above line below : Text} (row : Row t above line below) (column : Nat) :
    ∃ left right, line = left ++ right ∧ Lands column left right ∧
      offsetAtColumn? t ⟨size above,size (above ++ line)⟩ column = some (size (above ++ left)) := by
  obtain ⟨left,right,parts,offset,reaches,first⟩ := bytesLand column 0 line
  simp only [Nat.zero_add] at reaches first
  refine ⟨left,right,parts,⟨reaches,first⟩,?_⟩
  have piece : slice? t (size above) (size (above ++ line)) = some line := by
    rw [row.whole,sizeAppend]
    exact sliceAppend above line below
  rw [offsetAtColumn?,piece,Option.map_some,offset,sizeAppend above left]

end ScriptConsole.Text
