import Mathlib.Algebra.GroupWithZero.Nat
import Mathlib.Data.Bool.AllAny
import Mathlib.Data.List.Induction
import ScriptConsole.Proofs.Screen.Redisplay
import ScriptConsole.Proofs.Text.Row

/-! Rows and columns of a text. The column is on the screen after every character, except behind a newline
on a screen no wider than the indent. Where all characters are one cell wide the rows and the column come
out by division. -/
namespace ScriptConsole

namespace Layout
variable {width : Nat}

/-! ## The rows -/

/- A layout whose rows are kept in 32 bits after every character. -/
def keep (width : Nat) (p : Position) (t : Text) : Position :=
  t.foldl (fun p c => (advance p c width).1.held) p

theorem keepHolds (width : Nat) (p : Position) (t : Text) : keep width p.held t = (walk width p t).held := by
  induction t generalizing p with
  | nil => rfl
  | cons c rest ih =>
    show keep width (advance p.held c width).1.held rest = _
    rw [advanceHeld]
    exact ih (advance p c width).1

theorem keepWalks (width : Nat) (t : Text) : keep width .origin t = (walk width .origin t).held := by
  have kept := keepHolds width .origin t
  rwa [Position.originHeld] at kept

/-! ## The column -/

def painted (c : Char) : Bool := c = '\n' || !Text.isControl c

def BreaksLast (t : Text) : Prop := t.reverse.find? painted = some '\n'

instance (t : Text) : Decidable (BreaksLast t) := inferInstanceAs (Decidable (_ = _))

theorem breaksLastPainted {c : Char} (shown : painted c = true) (t : Text) :
    BreaksLast (t ++ [c]) ↔ c = '\n' := by
  rw [BreaksLast,List.reverse_concat,List.find?_cons_of_pos shown,Option.some.injEq]

theorem breaksLastSkipped {c : Char} (skipped : ¬ painted c = true) (t : Text) :
    BreaksLast (t ++ [c]) ↔ BreaksLast t := by
  rw [BreaksLast,List.reverse_concat,List.find?_cons_of_neg skipped,BreaksLast]

theorem walkConcat (p : Position) (t : Text) (c : Char) :
    walk width p (t ++ [c]) = (advance (walk width p t) c width).1 := walkAppend width p t [c]

theorem advanceSkips {p : Position} {c : Char} (skipped : ¬ painted c = true) : (advance p c width).1 = p := by
  have control : ¬ c = '\n' ∧ Text.isControl c = true := by simpa [painted] using skipped
  rw [advance,if_neg control.1,if_pos control.2]

theorem advanceInside {p : Position} {c : Char} (some : 1 ≤ width) (left : 0 ≤ p.col) (other : c ≠ '\n')
    (shown : painted c = true) : 0 ≤ (advance p c width).1.col ∧ (advance p c width).1.col < width := by
  have visible : ¬ Text.isControl c = true := by simpa [painted,other] using shown
  have one : max (width : Int) 1 = width := by omega
  simp only [advance,one]
  rw [if_neg other,if_neg visible]
  by_cases beyond : 0 < p.col ∧ (width : Int) < p.col + Text.cellWidth c
  · rw [if_pos beyond]
    dsimp only
    split <;> constructor <;> simp only <;> omega
  · rw [if_neg beyond]
    dsimp only
    split <;> constructor <;> simp only <;> omega

theorem walkColumn (some : 1 ≤ width) (t : Text) : 0 ≤ (walk width .origin t).col ∧
    ((walk width .origin t).col < width ↔ continuationIndent < width ∨ ¬ BreaksLast t) := by
  induction t using List.reverseRecOn with
  | nil =>
    have start : (walk width .origin []).col = 0 := rfl
    have none : ¬ BreaksLast [] := by decide
    rw [start]
    exact ⟨Int.le_refl 0,iff_of_true (by omega) (.inr none)⟩
  | append_singleton t c ih =>
    rw [walkConcat]
    by_cases shown : painted c = true
    · rw [breaksLastPainted shown]
      by_cases newline : c = '\n'
      · have indented : (advance (walk width .origin t) c width).1.col = continuationIndent := by
          rw [newline]
          rfl
        rw [indented]
        exact ⟨Int.natCast_nonneg _,by simp [newline]⟩
      · obtain ⟨left,right⟩ := advanceInside some ih.1 newline shown
        exact ⟨left,iff_of_true right (.inr newline)⟩
    · rw [advanceSkips shown,breaksLastSkipped shown]
      exact ih

theorem columnOnScreenIff (some : 1 ≤ width) (t : Text) (c : Char) :
    ((walk width .origin (t ++ [c])).row < Position.rowEnd →
      (keep width .origin t).row ≤ (keep width .origin (t ++ [c])).row) ∧
    0 ≤ (keep width .origin (t ++ [c])).col ∧
    ((keep width .origin (t ++ [c])).col < width ↔
      continuationIndent < width ∨ ¬ BreaksLast (t ++ [c])) := by
  simp only [keepWalks]
  refine ⟨fun few => ?_,walkColumn some (t ++ [c])⟩
  have down : (walk width .origin t).row ≤ (walk width .origin (t ++ [c])).row := by
    rw [walkConcat]
    exact advanceDescends _ c width
  have low : 0 ≤ (walk width .origin t).row := walkDescends width .origin t
  rw [Position.heldExact low (by omega),Position.heldExact (by omega) few]
  exact down

theorem columnOnScreenNarrow : 1 ≤ 3 ∧ ((keep 3 .origin (['a','\n'] ++ ['b'])).col < (3 : Nat) ↔
    continuationIndent < 3 ∨ ¬ BreaksLast (['a','\n'] ++ ['b'])) :=
  ⟨by decide,(columnOnScreenIff (by decide) ['a','\n'] 'b').2.2⟩

theorem columnBeyondScreen : ¬ ∀ width : Nat, 1 ≤ width → ∀ (t : Text) (c : Char),
    (keep width .origin t).row ≤ (keep width .origin (t ++ [c])).row ∧
    0 ≤ (keep width .origin (t ++ [c])).col ∧ (keep width .origin (t ++ [c])).col < width :=
  fun always => absurd (always 1 (by decide) [] '\n').2.2 (by decide)

/-! ## Division -/

def extents (start : Nat) : List Text → List Nat
  | [] => []
  | line :: rest => (start + line.length) :: extents continuationIndent rest

/- The position behind a text in the column `start`: a row for every newline and for every time that a
line fills one, and what is left of the last line. -/
def divided (width start : Nat) (t : Text) : Position :=
  let reached := extents start (Text.rows t)
  ⟨(t.count '\n' + (reached.map (· / width)).sum : Nat),(reached.getLast?.getD 0 % width : Nat)⟩

theorem dividedNil {start : Nat} (inside : start < width) : divided width start [] = ⟨0,start⟩ := by
  have rows : Text.rows [] = [[]] := rfl
  simp [divided,rows,extents,Nat.div_eq_of_lt inside,Nat.mod_eq_of_lt inside]

theorem dividedNewline {start : Nat} (inside : start < width) (rest : Text) :
    divided width start ('\n' :: rest) =
      ⟨(divided width continuationIndent rest).row + 1,(divided width continuationIndent rest).col⟩ := by
  have rows : Text.rows ('\n' :: rest) = [] :: Text.rows rest := rfl
  obtain ⟨first,others,shape⟩ := Text.rowsExist rest
  simp only [divided,rows,shape,extents,List.length_nil,Nat.add_zero,List.map_cons,List.sum_cons,
    Nat.div_eq_of_lt inside,Nat.zero_add,List.count_cons_self,List.getLast?_cons,Option.getD_some,
    Position.mk.injEq,and_true]
  omega

theorem dividedNext {c : Char} (other : c ≠ '\n') (start : Nat) (rest : Text) :
    divided width start (c :: rest) = divided width (start + 1) rest := by
  obtain ⟨first,others,shape⟩ := Text.rowsExist rest
  have rows : Text.rows (c :: rest) = (c :: first) :: others := by
    rw [Text.rows] at shape ⊢
    rw [Text.splitOn,if_neg other,shape]
  have longer : start + (c :: first).length = start + 1 + first.length := by
    rw [List.length_cons]
    omega
  simp only [divided,rows,shape,extents,longer,List.count_cons_of_ne other]

theorem dividedFull (some : 0 < width) (t : Text) :
    divided width width t = ⟨(divided width 0 t).row + 1,(divided width 0 t).col⟩ := by
  obtain ⟨first,others,shape⟩ := Text.rowsExist t
  have row : (width + first.length) / width = (0 + first.length) / width + 1 := by
    rw [Nat.add_div_left _ some,Nat.zero_add]
  have last (tail : List Nat) : (tail.getLast?.getD (width + first.length)) % width =
      (tail.getLast?.getD (0 + first.length)) % width := by
    cases tail.getLast? with
    | none => rw [Option.getD_none,Option.getD_none,Nat.add_mod_left,Nat.zero_add]
    | some n => rfl
  simp only [divided,shape,extents,List.map_cons,List.sum_cons,List.getLast?_cons,Option.getD_some,row,last,
    Position.mk.injEq,and_true]
  omega

def Single (c : Char) : Prop := c = '\n' ∨ Text.cellWidth c = 1

instance (c : Char) : Decidable (Single c) := inferInstanceAs (Decidable (_ ∨ _))

theorem singlePlain {c : Char} (single : Single c) : Plain c := by
  refine single.imp_right fun one => ⟨?_,.inl one⟩
  cases control : Text.isControl c with
  | false => rfl
  | true =>
    rw [Text.cellWidth,if_pos control] at one
    contradiction

theorem advanceSingle {row : Int} {start : Nat} {c : Char} (wide : 4 < width) (inside : start < width)
    (other : c ≠ '\n') (one : Text.cellWidth c = 1) : (advance ⟨row,start⟩ c width).1 =
      if start + 1 < width then ⟨row,(start + 1 : Nat)⟩ else ⟨row + 1,(0 : Nat)⟩ := by
  have right : (start : Int) < width := by omega
  rcases advancePlain (p := ⟨row,start⟩) wide (Int.natCast_nonneg _) right (singlePlain (.inr one)) with
    ⟨same,_⟩ | ⟨_,_,⟨fits,step⟩ | ⟨fills,step⟩ | ⟨_,two,_⟩⟩
  · exact absurd same other
  · rw [step,if_pos (by simp only [one] at fits; omega),one]
    rfl
  · rw [step,if_neg (by simp only [one] at fills; omega)]
    rfl
  · rw [one] at two
    contradiction

theorem walkDivides {start : Nat} {t : Text} (wide : 4 < width) (inside : start < width) (row : Int)
    (single : ∀ c ∈ t, Single c) : walk width ⟨row,start⟩ t =
      ⟨row + (divided width start t).row,(divided width start t).col⟩ := by
  induction t generalizing row start with
  | nil =>
    rw [dividedNil inside,Int.add_zero]
    rfl
  | cons c rest ih =>
    obtain ⟨here,later⟩ := List.forall_mem_cons.mp single
    show walk width (advance ⟨row,start⟩ c width).1 rest = _
    rcases here with rfl | one
    · have below : walk width ⟨row + 1,(continuationIndent : Nat)⟩ rest =
          ⟨row + 1 + (divided width continuationIndent rest).row,
            (divided width continuationIndent rest).col⟩ := ih wide (row + 1) later
      rw [dividedNewline inside,← Int.add_assoc,Int.add_right_comm]
      exact below
    · have other : c ≠ '\n' := by
        rintro rfl
        exact absurd one (by decide)
      rw [advanceSingle wide inside other one,dividedNext other]
      split
      · rename_i fits
        exact ih fits row later
      · have full : start + 1 = width := by omega
        have below : walk width ⟨row + 1,(0 : Nat)⟩ rest =
            ⟨row + 1 + (divided width 0 rest).row,(divided width 0 rest).col⟩ := ih (by omega) (row + 1) later
        rw [full,dividedFull (by omega),← Int.add_assoc,Int.add_right_comm]
        exact below

theorem walkDivided {t : Text} (wide : 4 < width) (single : ∀ c ∈ t, Single c) :
    walk width .origin t = divided width 0 t := by
  have walked := walkDivides wide (show 0 < width by omega) 0 single
  rwa [Int.zero_add] at walked

theorem dividedLine {t : Text} (one : '\n' ∉ t) :
    divided width 0 t = ⟨(t.length / width : Nat),(t.length % width : Nat)⟩ := by
  simp [divided,Text.rowsSole one,extents,Text.countNone one]

theorem singleUnmarked {t : Text} (single : ∀ c ∈ t, Single c) : Marked.visible t = t :=
  (Marked.plainDresses fun c inside => singlePlain (single c inside)).visible

end Layout

namespace Display

end Display

end ScriptConsole
