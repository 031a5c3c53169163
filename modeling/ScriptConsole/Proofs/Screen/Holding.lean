import ScriptConsole.Screen.Layout

/-! Rows in 32 bits. A step looks at the column alone and only ever adds to the row, so a row that is kept
in 32 bits after every character is the row of the layout as they hold it. Before the row `rowEnd`, the
first that they do not hold, that is the row itself. -/
namespace ScriptConsole

namespace Position

def rowEnd : Int := 2147483648

theorem wrapBalanced (n : Int) : wrap n = n.bmod 4294967296 := Int32.toInt_ofInt

theorem wrapExact {n : Int} (low : -rowEnd ≤ n) (high : n < rowEnd) : wrap n = n := by
  unfold rowEnd at low high
  rw [wrapBalanced]
  exact Int.bmod_eq_of_le_mul_two (by omega) (by omega)

theorem wrapAdd (n rows : Int) : wrap (wrap n + rows) = wrap (n + rows) := by
  simp only [wrapBalanced,Int.bmod_add_bmod]

theorem wrapSame {n m : Int} (same : wrap n = wrap m) : wrap (n - m) = 0 := by
  rw [Int.sub_eq_add_neg,← wrapAdd,same,wrapAdd,Int.add_right_neg]
  decide

theorem wrapAround : wrap rowEnd = -rowEnd := by decide

theorem heldExact {p : Position} (low : 0 ≤ p.row) (few : p.row < rowEnd) : p.held = p := by
  have least : -rowEnd ≤ p.row := Int.le_trans (by decide) low
  rw [held,wrapExact least few]

theorem originHeld : held .origin = .origin := by decide

end Position

namespace Layout
variable {width : Nat}

theorem advanceLower (p : Position) (rows : Int) (c : Char) :
    advance ⟨p.row + rows,p.col⟩ c width =
      (⟨(advance p c width).1.row + rows,(advance p c width).1.col⟩,(advance p c width).2) := by
  have next : p.row + rows + 1 = p.row + 1 + rows := Int.add_right_comm ..
  unfold advance
  dsimp only
  rw [next]
  split
  · rfl
  · split
    · rfl
    · by_cases beyond : 0 < p.col ∧ (max width 1 : Int) < p.col + Text.cellWidth c
      · simp only [if_pos beyond]
        rw [Int.add_right_comm]
        split <;> rfl
      · simp only [if_neg beyond]
        rw [next]
        split <;> rfl

theorem advanceHeld (p : Position) (c : Char) : (advance p.held c width).1.held = (advance p c width).1.held := by
  have lower : p.held = ⟨p.row + (Position.wrap p.row - p.row),p.col⟩ := by
    rw [Int.add_comm,Int.sub_add_cancel]
    rfl
  have same : Position.wrap ((advance p c width).1.row + (Position.wrap p.row - p.row)) =
      Position.wrap (advance p c width).1.row := by
    have turned : (advance p c width).1.row + (Position.wrap p.row - p.row) =
        Position.wrap p.row + ((advance p c width).1.row - p.row) := by omega
    have back : p.row + ((advance p c width).1.row - p.row) = (advance p c width).1.row := by omega
    rw [turned,Position.wrapAdd,back]
  rw [lower,advanceLower,Position.held,same]
  rfl

end Layout

end ScriptConsole
