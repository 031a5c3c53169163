import ScriptConsole.Edit.Reader
import ScriptConsole.Proofs.History.Records
import ScriptConsole.Proofs.Text.Line

/-! The list of candidates under the prompt, in rows of columns. The columns are counted in characters
and the terminal in cells, so a row of several columns fits unless it has too many characters of two
cells: more than it has characters without a cell and free cells behind its columns. -/
namespace ScriptConsole

namespace Text

def doubled (t : Text) : Nat := t.countP (cellWidth · == 2)

def hidden (t : Text) : Nat := t.countP (cellWidth · == 0)

theorem cellWidthCases (c : Char) : cellWidth c = 0 ∨ cellWidth c = 1 ∨ cellWidth c = 2 := by
  unfold cellWidth
  split_ifs <;> simp

theorem cellsSpaces (n : Nat) : cells (Editor.spaces n) = n := by
  induction n with
  | zero => rfl
  | succ n ih =>
    have one : cellWidth ' ' = 1 := by decide
    rw [Editor.spaces,List.replicate_succ,cellsCons,← Editor.spaces,ih,one,Nat.add_comm]

theorem cellsCounted (t : Text) : cells t + hidden t = t.length + doubled t := by
  induction t with
  | nil => rfl
  | cons c rest ih =>
    rw [hidden,doubled] at ih ⊢
    rw [cellsCons,List.countP_cons,List.countP_cons,List.length_cons]
    rcases cellWidthCases c with width | width | width <;> simp only [width] <;> simp <;> omega

end Text

namespace LineReader
open Text (cells doubled hidden)

/-! ## Rows and columns -/

def columnOf (candidates : List Text) : Nat := (candidates.map List.length).foldl max 0 + 2

def perRow (width : Nat) (candidates : List Text) : Nat := max (width / columnOf candidates) 1

def listed (width : Nat) (candidates : List Text) : List (List Text) :=
  rowsOf (perRow width candidates) candidates

def written (column : Nat) (row : List Text) : Text := row.flatMap (padded column)

theorem foldMax (l : List Nat) (start : Nat) :
    start ≤ l.foldl max start ∧ ∀ n ∈ l, n ≤ l.foldl max start := by
  induction l generalizing start with
  | nil => exact ⟨Nat.le_refl start,nofun⟩
  | cons first rest ih =>
    obtain ⟨least,each⟩ := ih (max start first)
    refine ⟨Nat.le_trans (Nat.le_max_left start first) least,fun n inside => ?_⟩
    rcases List.mem_cons.mp inside with rfl | later
    · exact Nat.le_trans (Nat.le_max_right start n) least
    · exact each n later

theorem columnHolds {candidates : List Text} {t : Text} (inside : t ∈ candidates) :
    t.length ≤ columnOf candidates := by
  have bound := (foldMax (candidates.map List.length) 0).2 t.length (List.mem_map_of_mem inside)
  rw [columnOf]
  omega

theorem rowsOfFlatten {n : Nat} (some : 0 < n) (l : List Text) : (rowsOf n l).flatten = l := by
  induction l using rowsOf.induct n with
  | case1 l done =>
    rcases done with zero | none
    · omega
    · rw [rowsOf,dif_pos (.inr none),none]
      rfl
  | case2 l more ih => rw [rowsOf,dif_neg more,List.flatten_cons,ih,List.take_append_drop]

theorem rowsOfLength {n : Nat} {l row : List Text} (inside : row ∈ rowsOf n l) :
    0 < row.length ∧ row.length ≤ n := by
  induction l using rowsOf.induct n with
  | case1 l done =>
    rw [rowsOf,dif_pos done] at inside
    contradiction
  | case2 l more ih =>
    rw [rowsOf,dif_neg more] at inside
    rcases List.mem_cons.mp inside with rfl | later
    · rw [not_or] at more
      have content := List.length_pos_iff.mpr more.2
      rw [List.length_take]
      omega
    · exact ih later

theorem listedFlatten (width : Nat) (candidates : List Text) : (listed width candidates).flatten = candidates :=
  rowsOfFlatten (Nat.le_max_right _ 1) candidates

theorem listedMember {width : Nat} {candidates row : List Text} (inside : row ∈ listed width candidates) :
    ∀ t ∈ row, t ∈ candidates := by
  intro t there
  rw [← listedFlatten width candidates]
  exact List.mem_flatten.mpr ⟨row,inside,there⟩

theorem columnsFit {width : Nat} {candidates row : List Text} (inside : row ∈ listed width candidates)
    (several : row.length ≠ 1) : row.length * columnOf candidates ≤ width := by
  obtain ⟨content,bound⟩ := rowsOfLength inside
  have fits : row.length ≤ width / columnOf candidates := by
    rw [perRow] at bound
    omega
  exact (Nat.le_div_iff_mul_le (Nat.succ_pos _)).mp fits

/-! ## What is written -/

theorem writtenCells {column : Nat} {row : List Text} (holds : ∀ t ∈ row, t.length ≤ column) :
    cells (written column row) + hidden row.flatten = row.length * column + doubled row.flatten := by
  have counted := Text.cellsCounted row.flatten
  have padded : cells (written column row) + row.flatten.length = cells row.flatten + row.length * column := by
    clear counted
    induction row with
    | nil => simp [written,cells]
    | cons t rest ih =>
      have later := ih fun u there => holds u (List.mem_cons_of_mem _ there)
      have first := holds t List.mem_cons_self
      rw [written] at later ⊢
      rw [List.flatMap_cons,LineReader.padded,Text.cellsAppend,Text.cellsAppend,Text.cellsSpaces,
        List.flatten_cons,List.length_append,Text.cellsAppend,List.length_cons,Nat.succ_mul]
      omega
  omega

theorem linesOfRows {rows : List Text} (one : ∀ row ∈ rows, '\n' ∉ row) :
    Text.lines (rows.flatMap (· ++ ['\r','\n'])) = rows := by
  have ended : rows.flatMap (· ++ ['\r','\n']) = (rows.map (· ++ ['\r'])).flatMap (· ++ ['\n']) := by
    simp [List.flatMap_map]
  have plain : ∀ r ∈ rows.map (· ++ ['\r']), '\n' ∉ r := by
    intro r inside newline
    obtain ⟨row,there,rfl⟩ := List.mem_map.mp inside
    rcases List.mem_append.mp newline with early | last
    · exact one row there early
    · simp at last
  rw [ended,History.linesOfRecords plain,List.map_map]
  have returned (row : Text) : History.unreturned (row ++ ['\r']) = row := by
    rw [History.unreturned,if_pos List.getLast?_concat,List.dropLast_concat]
  simp [Function.comp_def,returned]

section
variable {candidates : List Text} (visible : ∀ t ∈ candidates, ∀ c ∈ t, Text.isControl c = false)
include visible

theorem writtenOne {width : Nat} {row : List Text} (inside : row ∈ listed width candidates) (column : Nat) :
    '\n' ∉ written column row := by
  intro newline
  obtain ⟨t,there,found⟩ := List.mem_flatMap.mp newline
  rcases List.mem_append.mp found with early | space
  · exact absurd (visible t (listedMember inside t there) '\n' early) (by decide)
  · exact absurd (List.eq_of_mem_replicate space) (by decide)

theorem candidateLines (width : Nat) : Text.lines (candidateRows width candidates) =
    (listed width candidates).map (written (columnOf candidates)) := by
  have rows : candidateRows width candidates =
      ((listed width candidates).map (written (columnOf candidates))).flatMap (· ++ ['\r','\n']) := by
    rw [List.flatMap_map]
    rfl
  rw [rows]
  refine linesOfRows fun line inside => ?_
  obtain ⟨row,there,rfl⟩ := List.mem_map.mp inside
  exact writtenOne visible there (columnOf candidates)

theorem candidatesFitIff (r : LineReader) :
    (∃ listing, (r.showCandidates candidates).2 = r.leave.2 ++ listing ++ r.leave.1.redraw.2 ∧
      Text.lines listing = (listed r.width candidates).map (written (columnOf candidates))) ∧
      (listed r.width candidates).flatten = candidates ∧
      ∀ row ∈ listed r.width candidates, row.length ≠ 1 →
        (cells (written (columnOf candidates) row) ≤ r.width ↔
          doubled row.flatten ≤ hidden row.flatten + (r.width - row.length * columnOf candidates)) := by
  refine ⟨⟨candidateRows r.width candidates,rfl,candidateLines visible r.width⟩,
    listedFlatten r.width candidates,fun row inside several => ?_⟩
  have columns := columnsFit inside several
  have counted := writtenCells fun t there => columnHolds (listedMember inside t there)
  omega

end

def narrowReader : LineReader where
  prompt := ['>',' ']
  highlighter := .plain
  width := 13

theorem candidatesFitIffWide :
    (∀ t ∈ [['日','本'],['a','b']], ∀ c ∈ t, Text.isControl c = false) ∧
      cells (written (columnOf [['日','本'],['a','b']]) [['日','本'],['a','b']]) ≤ narrowReader.width := by
  have visible : ∀ t ∈ [['日','本'],['a','b']], ∀ c ∈ t, Text.isControl c = false := by
    simp [Text.isControl]
  obtain ⟨_,_,fits⟩ := candidatesFitIff visible narrowReader
  have row : listed narrowReader.width [['日','本'],['a','b']] = [[['日','本'],['a','b']]] := by
    simp [listed,perRow,columnOf,rowsOf,narrowReader]
  have member : [['日','本'],['a','b']] ∈ listed narrowReader.width [['日','本'],['a','b']] := by
    rw [row]
    exact List.mem_singleton_self _
  exact ⟨visible,(fits _ member (by decide)).mpr (by decide +kernel)⟩

theorem candidatesOverflow :
    ¬ ∀ (width : Nat) (candidates : List Text), (∀ t ∈ candidates, ∀ c ∈ t, Text.isControl c = false) →
      ∀ row ∈ listed width candidates, row.length ≠ 1 →
        cells (written (columnOf candidates) row) ≤ width := by
  intro always
  have row : listed 8 [['日','光'],['日','本']] = [[['日','光'],['日','本']]] := by
    simp [listed,perRow,columnOf,rowsOf]
  have member : [['日','光'],['日','本']] ∈ listed 8 [['日','光'],['日','本']] := by
    rw [row]
    exact List.mem_singleton_self _
  have fits := always 8 [['日','光'],['日','本']] (by simp [Text.isControl]) _ member (by decide)
  exact absurd fits (by decide +kernel)

end LineReader

end ScriptConsole
