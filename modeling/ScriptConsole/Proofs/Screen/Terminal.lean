import ScriptConsole.Proofs.Screen.Holding
import ScriptConsole.Proofs.Text.Number

/-! A terminal to hold the painter against. It has rows without end, a cursor that waits in the last
column and wraps with the next character, and the control sequences for rows, column, erasing and
colours. A wide character takes two cells, and writing over one of them blanks the other. -/
namespace ScriptConsole

inductive Cell
  | blank
  | glyph (c : Char)
  | trail
  deriving DecidableEq, Repr

def Cell.of (c : Char) : Cell := if c = ' ' then .blank else .glyph c

abbrev Grid := Position → Cell

namespace Grid

def put (g : Grid) (p : Position) (cell : Cell) : Grid := fun q =>
  if q = p then cell
  else if q.row = p.row ∧ q.col = p.col + 1 ∧ g q = .trail then .blank
  else if q.row = p.row ∧ q.col + 1 = p.col ∧ g p = .trail then .blank
  else g q

def putChar (g : Grid) (p : Position) (c : Char) : Grid :=
  if Text.cellWidth c = 2 then (g.put p (.of c)).put ⟨p.row,p.col + 1⟩ .trail else g.put p (.of c)

def eraseLine (g : Grid) (p : Position) : Grid := fun q =>
  if q.row = p.row ∧ p.col ≤ q.col then .blank
  else if q.row = p.row ∧ q.col + 1 = p.col ∧ g p = .trail then .blank
  else g q

def eraseScreen (g : Grid) (p : Position) : Grid := fun q =>
  if p.row < q.row then .blank else g.eraseLine p q

end Grid

inductive Intake
  | ground
  | escape
  | control (read : Text)
  deriving DecidableEq, Repr

structure Terminal where
  cursor : Position
  pending : Bool
  grid : Grid
  intake : Intake

namespace Terminal

def print (width : Nat) (t : Terminal) (c : Char) : Terminal :=
  let cells : Int := Text.cellWidth c
  if cells = 0 then t
  else
    let p : Position := if t.pending ∨ width < t.cursor.col + cells then ⟨t.cursor.row + 1,0⟩ else t.cursor
    let grid := t.grid.putChar p c
    if width ≤ p.col + cells then { t with cursor := ⟨p.row,width - 1⟩, pending := true, grid }
    else { t with cursor := ⟨p.row,p.col + cells⟩, pending := false, grid }

def count (read : Text) : Nat := max 1 ((Text.digitsFrom? 0 read).getD 1)

def control (width : Nat) (t : Terminal) (read : Text) : Char → Terminal
  | 'A' => { t with cursor := ⟨t.cursor.row - count read,t.cursor.col⟩, pending := false }
  | 'B' => { t with cursor := ⟨t.cursor.row + count read,t.cursor.col⟩, pending := false }
  | 'G' => { t with cursor := ⟨t.cursor.row,min (count read) width - 1⟩, pending := false }
  | 'K' => if read = [] then { t with grid := t.grid.eraseLine t.cursor } else t
  | 'J' => if read = [] then { t with grid := t.grid.eraseScreen t.cursor } else t
  | _ => t

def step (width : Nat) (t : Terminal) (c : Char) : Terminal :=
  match t.intake with
  | .escape => { t with intake := if c = '[' then .control [] else .ground }
  | .control read =>
      if Escape.isFinal c then control width { t with intake := .ground } read c
      else { t with intake := .control (read ++ [c]) }
  | .ground =>
      if c = '\x1b' then { t with intake := .escape }
      else if c = '\r' then { t with cursor := ⟨t.cursor.row,0⟩, pending := false }
      else if c = '\n' then { t with cursor := ⟨t.cursor.row + 1,t.cursor.col⟩, pending := false }
      else if Text.isControl c then t
      else t.print width c

def feed (width : Nat) (t : Terminal) (sent : Text) : Terminal := sent.foldl (step width) t

structure Idle (t : Terminal) : Prop where
  ground : t.intake = .ground
  settled : t.pending = false

theorem feedAppend (width : Nat) (t : Terminal) (a b : Text) :
    feed width t (a ++ b) = feed width (feed width t a) b := List.foldl_append

theorem feedCons (width : Nat) (t : Terminal) (c : Char) (rest : Text) :
    feed width t (c :: rest) = feed width (step width t c) rest := rfl

theorem stepPrint {width : Nat} {t : Terminal} {c : Char} (ground : t.intake = .ground)
    (visible : Text.isControl c = false) : step width t c = t.print width c := by
  have plain : ∀ d, Text.isControl d = true → c ≠ d := by
    rintro d hidden rfl
    rw [hidden] at visible
    contradiction
  simp only [step,ground,plain '\x1b' (by decide),plain '\r' (by decide),plain '\n' (by decide),
    if_false,visible,Bool.false_eq_true]

theorem feedReturn {width : Nat} {t : Terminal} (ground : t.intake = .ground) :
    feed width t ['\r','\n'] = { t with cursor := ⟨t.cursor.row + 1,0⟩, pending := false } := by
  simp [feed,step,ground]

theorem feedEraseLine {width : Nat} {t : Terminal} (ground : t.intake = .ground) :
    feed width t Escape.eraseLine = { t with grid := t.grid.eraseLine t.cursor } := by
  have chars : Escape.eraseLine = ['\x1b','[','K'] := by decide
  have final : Escape.isFinal 'K' = true := by decide
  simp [chars,feed,step,ground,final,control]

theorem feedEraseScreen {width : Nat} {t : Terminal} (ground : t.intake = .ground) :
    feed width t Escape.eraseScreen = { t with grid := t.grid.eraseScreen t.cursor } := by
  have chars : Escape.eraseScreen = ['\x1b','[','J'] := by decide
  have final : Escape.isFinal 'J' = true := by decide
  simp [chars,feed,step,ground,final,control]

theorem feedParameters {width : Nat} {t : Terminal} {read params : Text}
    (inside : t.intake = .control read) (open' : ∀ c ∈ params, Escape.isFinal c = false) :
    feed width t params = { t with intake := .control (read ++ params) } := by
  induction params generalizing t read with
  | nil => rw [List.append_nil,← inside]; rfl
  | cons c rest ih =>
    have first := open' c List.mem_cons_self
    have here : step width t c = { t with intake := .control (read ++ [c]) } := by
      simp only [step,inside,first,Bool.false_eq_true,if_false]
    rw [feedCons,here,ih rfl fun d there => open' d (List.mem_cons_of_mem _ there)]
    simp

theorem feedControl {width : Nat} {t : Terminal} {params : Text} {final : Char}
    (ground : t.intake = .ground) (open' : ∀ c ∈ params, Escape.isFinal c = false)
    (ends : Escape.isFinal final = true) :
    feed width t ('\x1b' :: '[' :: (params ++ [final])) = t.control width params final := by
  have start : step width (step width t '\x1b') '[' = { t with intake := .control [] } := by
    simp [step,ground]
  rw [feedCons,feedCons,start,feedAppend,feedParameters rfl open',List.nil_append]
  simp only [feed,List.foldl_cons,List.foldl_nil,step,ends,if_true]
  rw [← ground]

theorem digitNotFinal {c : Char} (digit : c.isDigit = true) : Escape.isFinal c = false := by
  have high : c.toNat ≤ 57 := by
    simp only [Char.isDigit,Bool.and_eq_true,decide_eq_true_eq] at digit
    exact digit.2
  have low : ¬ '@' ≤ c := by
    intro above
    have : 64 ≤ c.toNat := above
    omega
  simp [Escape.isFinal,low]

theorem feedSequence {width : Nat} {t : Terminal} {n : Nat} {final : Char}
    (ground : t.intake = .ground) (ends : Escape.isFinal final = true) :
    feed width t (Escape.sequence n final) = t.control width (Text.ofNat n) final :=
  feedControl ground (fun _ inside => digitNotFinal (Text.ofNatIsDigit inside)) ends

theorem countOfNat (n : Nat) : count (Text.ofNat n) = max 1 n := by
  rw [count,Text.digitsFromOfNat]; rfl

def clipped (rows : Int) : Int := max (-Escape.limit) (min rows Escape.limit)

/- The rows that a move of so many rows really goes, as they are counted in 32 bits before. -/
def reached (rows : Int) : Int := clipped (Position.wrap rows)

theorem reachedClipped {rows : Int} (low : -Position.rowEnd ≤ rows) (high : rows < Position.rowEnd) :
    reached rows = clipped rows := by
  rw [reached,Position.wrapExact low high]

theorem reachedWithin {rows : Int} (low : -Escape.limit ≤ rows) (high : rows ≤ Escape.limit) :
    reached rows = rows := by
  have limit : (Escape.limit : Int) = 65535 := rfl
  have last : Position.rowEnd = 2147483648 := rfl
  rw [reachedClipped (by omega) (by omega)]
  unfold clipped; omega

theorem feedVertical {width : Nat} {t : Terminal} (idle : t.Idle) (rows : Int) :
    feed width t (Escape.vertical rows) =
      { t with cursor := ⟨t.cursor.row + clipped rows,t.cursor.col⟩ } := by
  have limit : (Escape.limit : Int) = 65535 := rfl
  have positive : Escape.limit = 65535 := rfl
  obtain ⟨ground,settled⟩ := idle
  obtain ⟨cursor,pending,grid,intake⟩ := t
  simp only at ground settled
  subst ground settled
  unfold Escape.vertical
  split
  · rename_i up
    rw [feedSequence rfl (by decide)]
    have rows' : cursor.row - (count (Text.ofNat (min rows.natAbs Escape.limit)) : Int) =
        cursor.row + clipped rows := by
      rw [countOfNat]; unfold clipped; omega
    simp only [control,rows']
  · split
    · rename_i down
      rw [feedSequence rfl (by decide)]
      have rows' : cursor.row + (count (Text.ofNat (min rows.natAbs Escape.limit)) : Int) =
          cursor.row + clipped rows := by
        rw [countOfNat]; unfold clipped; omega
      simp only [control,rows']
    · have still : clipped rows = 0 := by unfold clipped; omega
      rw [still,Int.add_zero]
      rfl

theorem feedColumn {width : Nat} {t : Terminal} (idle : t.Idle) {col : Int} (low : 0 ≤ col)
    (high : col < width) (narrow : width ≤ Escape.limit) :
    feed width t (Escape.column col) = { t with cursor := ⟨t.cursor.row,col⟩ } := by
  have limit : Escape.limit = 65535 := rfl
  obtain ⟨ground,settled⟩ := idle
  obtain ⟨cursor,pending,grid,intake⟩ := t
  simp only at ground settled
  subst ground settled
  rw [Escape.column,feedSequence rfl (by decide)]
  have counted : ((min (count (Text.ofNat ((min col.toNat Escape.limit + 1) % (Escape.limit + 1)))) width :
      Nat) : Int) - 1 = col := by
    rw [countOfNat,limit]; omega
  simp only [control,counted]

theorem feedColumnRow {width : Nat} {t : Terminal} (idle : t.Idle) (col : Int) :
    (feed width t (Escape.column col)).cursor.row = t.cursor.row := by
  rw [Escape.column,feedSequence idle.ground (by decide)]
  rfl

structure AtStart (t : Terminal) : Prop where
  idle : t.Idle
  left : t.cursor.col = 0

theorem printIntake (width : Nat) (t : Terminal) (c : Char) : (t.print width c).intake = t.intake := by
  by_cases none : (Text.cellWidth c : Int) = 0
  · simp only [print,none,if_true]
  · simp only [print,none,if_false]
    rw [apply_ite intake,ite_self]

theorem feedGround (width : Nat) {t : Terminal} {sent : Text} (ground : t.intake = .ground)
    (calm : ∀ c ∈ sent, c ≠ '\x1b') : (t.feed width sent).intake = .ground := by
  induction sent generalizing t with
  | nil => exact ground
  | cons c rest ih =>
    have here : (t.step width c).intake = .ground := by
      unfold step
      simp only [ground,calm c List.mem_cons_self,if_false]
      split
      · rfl
      · split
        · rfl
        · split
          · exact ground
          · exact (printIntake width t c).trans ground
    exact ih here fun d there => calm d (List.mem_cons_of_mem _ there)

theorem feedRow {width : Nat} {t : Terminal} {row : Text} (ground : t.intake = .ground)
    (calm : ∀ c ∈ row, c ≠ '\x1b') : (t.feed width (row ++ ['\r','\n'])).AtStart := by
  have after := feedGround width ground calm
  rw [feedAppend,feedReturn after]
  exact ⟨⟨after,rfl⟩,rfl⟩

end Terminal

end ScriptConsole
