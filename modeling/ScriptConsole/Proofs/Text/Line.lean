import Mathlib.Data.List.DropRight
import ScriptConsole.Text.Line
import ScriptConsole.Proofs.Text.Offset

/-! The logical line of a point, as parts of the text around it. The line is what follows the last
newline before the point together with what precedes the first newline after it. -/
namespace ScriptConsole.Text

theorem cutEnds {p : Char → Bool} {t : Text} {c : Char} (last : c ∈ (t.rdropWhile p).getLast?) : p c = false := by
  obtain ⟨content,rfl⟩ := List.mem_getLast?_eq_getLast last
  simpa using List.rdropWhile_last_not p t content

theorem openLineParts (before : Text) :
    ∃ pre, before = pre ++ openLine before ∧ (pre = [] ∨ ∃ front, pre = front ++ ['\n']) := by
  refine ⟨before.rdropWhile (· != '\n'),List.rdropWhile_append_rtakeWhile.symm,?_⟩
  rcases List.eq_nil_or_concat' (before.rdropWhile (· != '\n')) with none | ⟨front,c,parts⟩
  · exact .inl none
  · have last : c ∈ (before.rdropWhile (· != '\n')).getLast? := by rw [parts,List.getLast?_concat]; rfl
    have newline : c = '\n' := by simpa using cutEnds last
    exact .inr ⟨front,by rw [parts,newline]⟩

theorem restOfLineParts (after : Text) : ∃ post, after = restOfLine after ++ post :=
  ⟨after.dropWhile (· != '\n'),(List.takeWhile_append_dropWhile).symm⟩

theorem lineBelow (after : Text) (more : restOfLine after ≠ after) :
    ∃ post, after = restOfLine after ++ '\n' :: post := by
  have whole := List.takeWhile_append_dropWhile (p := (· != '\n')) (l := after)
  cases rest : after.dropWhile (· != '\n') with
  | nil =>
    rw [rest,List.append_nil] at whole
    exact absurd whole more
  | cons c post =>
    have first := List.head?_dropWhile_not (· != '\n') after
    rw [rest] at first whole
    obtain rfl : c = '\n' := by simpa using first
    exact ⟨post,whole.symm⟩

theorem lineStartAt (before after : Text) :
    ∃ pre, before = pre ++ openLine before ∧ (pre = [] ∨ ∃ front, pre = front ++ ['\n']) ∧
      lineStart? (before ++ after) (size before) = some (size pre) := by
  obtain ⟨pre,whole,shape⟩ := openLineParts before
  have sizes := congrArg size whole
  rw [sizeAppend] at sizes
  refine ⟨pre,whole,shape,?_⟩
  simp only [lineStart?,splitAppend,Option.map_some,Option.some.injEq]
  omega

theorem lineEndAt (before after : Text) :
    lineEnd? (before ++ after) (size before) = some (size before + size (restOfLine after)) := by
  simp [lineEnd?,splitAppend]

theorem columnAt (before after : Text) :
    column? (before ++ after) (size before) = some (cells (openLine before)) := by
  simp [column?,splitAppend]

theorem indentAt (before after : Text) :
    indent? (before ++ after) (size before) =
      some ((openLine before).takeWhile (· == ' ')).length := by
  simp [indent?,splitAppend]

theorem leadingSpacesAt (before after : Text) :
    leadingSpaces? (before ++ after) (size before) =
      some (if (openLine before).all (· == ' ') then some (openLine before).length else none) := by
  simp [leadingSpaces?,splitAppend]

theorem lineSpanAt (before after : Text) :
    ∃ span, lineSpan? (before ++ after) (size before) = some span ∧
      slice? (before ++ after) span.start span.stop = some (openLine before ++ restOfLine after) := by
  obtain ⟨pre,whole,_,start⟩ := lineStartAt before after
  obtain ⟨post,tail⟩ := restOfLineParts after
  have sizes := congrArg size whole
  rw [sizeAppend] at sizes
  refine ⟨⟨size pre,size before + size (restOfLine after)⟩,?_,?_⟩
  · simp [lineSpan?,start,lineEndAt]
  · have parts : before ++ after = pre ++ (openLine before ++ restOfLine after) ++ post := by
      conv => lhs; rw [whole,tail]
      simp
    have stop : size before + size (restOfLine after) =
        size pre + size (openLine before ++ restOfLine after) := by rw [sizeAppend]; omega
    simp only [stop]
    rw [parts]
    exact sliceAppend pre _ post

theorem offsetAtColumnExists (before after : Text) (column : Nat) :
    ∃ span offset, lineSpan? (before ++ after) (size before) = some span ∧
      offsetAtColumn? (before ++ after) span column = some offset := by
  obtain ⟨span,found,part⟩ := lineSpanAt before after
  exact ⟨span,_,found,by rw [offsetAtColumn?,part]; rfl⟩

theorem cellsCons (c : Char) (t : Text) : cells (c :: t) = cellWidth c + cells t := rfl

theorem cellsAppend (a b : Text) : cells (a ++ b) = cells a + cells b := by
  induction a with
  | nil => exact (Nat.zero_add _).symm
  | cons c rest ih => rw [List.cons_append,cellsCons,cellsCons,ih,Nat.add_assoc]

theorem spacesOfAll {line : Text} (h : line.all (· == ' ') = true) : size line = line.length := by
  induction line with
  | nil => rfl
  | cons c rest ih =>
    simp only [List.all_cons,Bool.and_eq_true,beq_iff_eq] at h
    have one : ' '.utf8Size = 1 := rfl
    simp only [size,h.1,one,ih h.2,List.length_cons]; omega

end ScriptConsole.Text
