import ScriptConsole.Proofs.Screen.Terminal

/-! Painting character by character. The layout of a text says which character stands in which cell;
while it is painted, the cells before the cursor agree with the layout and those from the cursor on
are still to come, whatever an earlier painting has left in them. -/
namespace ScriptConsole

def Plain (c : Char) : Prop :=
  c = '\n' ∨ Text.isControl c = false ∧ (Text.cellWidth c = 1 ∨ Text.cellWidth c = 2)

instance (c : Char) : Decidable (Plain c) := inferInstanceAs (Decidable (_ ∨ _))

theorem plainAll {t : Text} (all : t.all (fun c => decide (Plain c)) = true) : ∀ c ∈ t, Plain c :=
  fun c inside => of_decide_eq_true (List.all_eq_true.mp all c inside)

theorem plainSpace : Plain ' ' := .inr (by decide)

theorem plainNewline : Plain '\n' := .inl rfl

theorem plainCalm {c : Char} (plain : Plain c) : c ≠ '\x1b' := by
  rintro rfl
  rcases plain with same | ⟨visible,_⟩
  · exact absurd same (by decide)
  · exact absurd visible (by decide)

namespace Grid

def empty : Grid := fun _ => .blank

def inscribe (g : Grid) (p : Position) (c : Char) : Grid := fun q =>
  if q = p then .of c
  else if Text.cellWidth c = 2 ∧ q = ⟨p.row,p.col + 1⟩ then .trail
  else g q

end Grid

namespace Layout

def walk (width : Nat) (p : Position) (t : Text) : Position :=
  t.foldl (fun p c => (advance p c width).1) p

def inscribe (width : Nat) (p : Position) (g : Grid) (c : Char) : Grid :=
  match (advance p c width).2 with
  | .print | .printWrap => g.inscribe p c
  | .wrapPrint => g.inscribe ⟨p.row + 1,0⟩ c
  | .newline | .skip => g

def canvasFrom (width : Nat) (p : Position) (g : Grid) : Text → Grid
  | [] => g
  | c :: rest => canvasFrom width (advance p c width).1 (inscribe width p g c) rest

def canvas (width : Nat) (t : Text) : Grid := canvasFrom width .origin .empty t

theorem walkAppend (width : Nat) (p : Position) (a b : Text) :
    walk width p (a ++ b) = walk width (walk width p a) b := List.foldl_append

theorem canvasFromAppend (width : Nat) (p : Position) (g : Grid) (a b : Text) :
    canvasFrom width p g (a ++ b) = canvasFrom width (walk width p a) (canvasFrom width p g a) b := by
  induction a generalizing p g with
  | nil => rfl
  | cons c rest ih => exact ih _ _

theorem walkNewlines (width : Nat) (p : Position) (n : Nat) :
    (walk width p (List.replicate n '\n')).row = p.row + n := by
  induction n generalizing p with
  | zero => exact (Int.add_zero _).symm
  | succ n ih =>
    have here : (advance p '\n' width).1.row = p.row + 1 := rfl
    rw [List.replicate_succ]
    refine (ih (advance p '\n' width).1).trans ?_
    rw [here]
    omega

theorem advancePlain {width : Nat} {p : Position} {c : Char} (wide : 4 < width) (left : 0 ≤ p.col)
    (right : p.col < width) (plain : Plain c) :
    (c = '\n' ∧ advance p c width = (⟨p.row + 1,4⟩,.newline)) ∨
    (Text.isControl c = false ∧ (Text.cellWidth c = 1 ∨ Text.cellWidth c = 2) ∧
      ((p.col + Text.cellWidth c < width ∧ advance p c width = (⟨p.row,p.col + Text.cellWidth c⟩,.print)) ∨
      (p.col + Text.cellWidth c = width ∧ advance p c width = (⟨p.row + 1,0⟩,.printWrap)) ∨
      (0 < p.col ∧ Text.cellWidth c = 2 ∧ advance p c width = (⟨p.row + 1,2⟩,.wrapPrint)))) := by
  rcases plain with rfl | ⟨visible,cells⟩
  · exact .inl ⟨rfl,rfl⟩
  · refine .inr ⟨visible,cells,?_⟩
    have notNewline : c ≠ '\n' := by
      rintro rfl
      exact absurd visible (by decide)
    have one : max (width : Int) 1 = width := by omega
    have unpainted : ¬ Text.isControl c = true := by rw [visible]; exact Bool.false_ne_true
    by_cases beyond : 0 < p.col ∧ (width : Int) < p.col + Text.cellWidth c
    · have two : Text.cellWidth c = 2 := by omega
      have short : ¬ (width : Int) ≤ Text.cellWidth c := by omega
      refine .inr (.inr ⟨beyond.1,two,?_⟩)
      simp only [advance,one]
      rw [if_neg notNewline,if_neg unpainted,if_pos beyond]
      simp only []
      rw [if_neg short,two]
      rfl
    · by_cases fits : p.col + Text.cellWidth c < width
      · have short : ¬ (width : Int) ≤ p.col + Text.cellWidth c := by omega
        refine .inl ⟨fits,?_⟩
        simp only [advance,one]
        rw [if_neg notNewline,if_neg unpainted,if_neg beyond]
        simp only []
        rw [if_neg short]
      · have full : (width : Int) ≤ p.col + Text.cellWidth c := by omega
        refine .inr (.inl ⟨by omega,?_⟩)
        simp only [advance,one]
        rw [if_neg notNewline,if_neg unpainted,if_neg beyond]
        simp only []
        rw [if_pos full]

end Layout

/- The cells of the screen before p, from the row top down, are those of the canvas. -/
structure Covered (width : Nat) (top : Int) (screen canvas : Grid) (p : Position) : Prop where
  front : ∀ row col : Int, 0 ≤ row → 0 ≤ col → col < width → row < p.row ∨ row = p.row ∧ col < p.col →
    screen ⟨top + row,col⟩ = canvas ⟨row,col⟩
  clear : ∀ row col, ¬ (row < p.row ∨ row = p.row ∧ col < p.col) → canvas ⟨row,col⟩ = .blank
  edge : p.col = 0 ∨ screen ⟨top + p.row,p.col⟩ ≠ .trail

structure Painted (width : Nat) (top : Int) (t : Terminal) (canvas : Grid) (p : Position) : Prop where
  idle : t.Idle
  cursor : t.cursor = ⟨top + p.row,p.col⟩
  covered : Covered width top t.grid canvas p
  low : 0 ≤ p.row
  left : 0 ≤ p.col
  right : p.col < width

section
variable {width : Nat} {top : Int} {screen canvas : Grid} {p : Position} {c : Char}

theorem coveredPut (covered : Covered width top screen canvas p) (cell : Cell) :
    Covered width top (screen.put ⟨top + p.row,p.col⟩ cell)
      (fun q => if q = p then cell else canvas q) ⟨p.row,p.col + 1⟩ := by
  obtain ⟨front,clear,edge⟩ := covered
  refine ⟨?_,?_,?_⟩
  · intro row col low left right earlier
    simp only at earlier
    by_cases here : row = p.row ∧ col = p.col
    · obtain ⟨rfl,rfl⟩ := here
      simp [Grid.put]
    · have before : row < p.row ∨ row = p.row ∧ col < p.col := by omega
      have other : (⟨row,col⟩ : Position) ≠ p := by
        intro same
        subst same
        exact here ⟨rfl,rfl⟩
      -- the cell on the left could only lose its other half if the cursor stood inside a wide character
      have kept : ¬ (col + 1 = p.col ∧ screen ⟨top + p.row,p.col⟩ = .trail) := by
        rintro ⟨next,cut⟩
        rcases edge with start | whole
        · omega
        · exact whole cut
      have other' : ¬ (top + row = top + p.row ∧ col = p.col) := by omega
      have notRight : ¬ (top + row = top + p.row ∧ col = p.col + 1) := by omega
      rw [if_neg other,← front row col low left right before]
      simp only [Grid.put,Position.mk.injEq]
      rw [if_neg other',if_neg (fun h => notRight ⟨h.1,h.2.1⟩),if_neg (fun h => kept h.2)]
  · intro row col later
    simp only at later
    have other : (⟨row,col⟩ : Position) ≠ p := by
      intro same
      subst same
      exact later (.inr ⟨rfl,Int.lt_succ col⟩)
    rw [if_neg other]
    exact clear row col (by omega)
  · right
    simp only [Grid.put,Position.mk.injEq]
    rw [if_neg (by omega)]
    split
    · exact nofun
    · split
      · exact nofun
      · rename_i whole _
        intro cut
        exact whole ⟨trivial,trivial,cut⟩

theorem coveredChar (covered : Covered width top screen canvas p)
    (cells : Text.cellWidth c = 1 ∨ Text.cellWidth c = 2) :
    Covered width top (screen.putChar ⟨top + p.row,p.col⟩ c) (canvas.inscribe p c)
      ⟨p.row,p.col + Text.cellWidth c⟩ := by
  have first := coveredPut covered (.of c)
  rcases cells with one | two
  · have narrow : ¬ Text.cellWidth c = 2 := by omega
    have same : canvas.inscribe p c = fun q => if q = p then .of c else canvas q := by
      funext q
      simp only [Grid.inscribe,narrow,false_and,if_false]
    rw [same,Grid.putChar,if_neg narrow,one]
    exact first
  · have same : canvas.inscribe p c = fun q => if q = ⟨p.row,p.col + 1⟩ then .trail
        else if q = p then .of c else canvas q := by
      funext q
      simp only [Grid.inscribe,two,true_and]
      by_cases lead : q = p
      · subst lead
        have apart : q ≠ ⟨q.row,q.col + 1⟩ := by
          intro both
          have cols := congrArg Position.col both
          simp only at cols
          omega
        rw [if_pos rfl,if_neg apart,if_pos rfl]
      · rw [if_neg lead,if_neg lead]
    have next : p.col + 1 + 1 = p.col + (2 : Nat) := by omega
    rw [same,Grid.putChar,if_pos two,two,← next]
    exact coveredPut first .trail

theorem coveredRowEnd (covered : Covered width top screen canvas p) (full : (width : Int) ≤ p.col) :
    Covered width top screen canvas ⟨p.row + 1,0⟩ := by
  refine ⟨?_,?_,.inl rfl⟩
  · intro row col low left right earlier
    simp only at earlier
    exact covered.front row col low left right (by omega)
  · intro row col later
    simp only at later
    exact covered.clear row col (by omega)

theorem eraseLineBefore (covered : Covered width top screen canvas p) {row col : Int} (left : 0 ≤ col)
    (earlier : row < p.row ∨ row = p.row ∧ col < p.col) :
    screen.eraseLine ⟨top + p.row,p.col⟩ ⟨top + row,col⟩ = screen ⟨top + row,col⟩ := by
  unfold Grid.eraseLine
  rw [if_neg (by simp only; omega),if_neg]
  rintro ⟨_,next,cut⟩
  rcases covered.edge with start | whole
  · simp only at next
    omega
  · exact whole cut

theorem coveredEraseLine (covered : Covered width top screen canvas p) (right : p.col < width) :
    Covered width top (screen.eraseLine ⟨top + p.row,p.col⟩) canvas ⟨p.row,width⟩ := by
  have gone : ∀ col, p.col ≤ col → screen.eraseLine ⟨top + p.row,p.col⟩ ⟨top + p.row,col⟩ = .blank := by
    intro col after
    unfold Grid.eraseLine
    rw [if_pos ⟨rfl,after⟩]
  refine ⟨?_,?_,.inr (by rw [gone width (by omega)]; exact nofun)⟩
  · intro row col low left bound earlier
    simp only at earlier
    by_cases before : row < p.row ∨ row = p.row ∧ col < p.col
    · rw [eraseLineBefore covered left before]
      exact covered.front row col low left bound before
    · obtain rfl : row = p.row := by omega
      rw [gone col (by omega),covered.clear p.row col before]
  · intro row col later
    simp only at later
    exact covered.clear row col (by omega)

theorem eraseScreenShows (covered : Covered width top screen canvas p) {row col : Int} (low : 0 ≤ row)
    (left : 0 ≤ col) (bound : col < width) :
    screen.eraseScreen ⟨top + p.row,p.col⟩ ⟨top + row,col⟩ = canvas ⟨row,col⟩ := by
  unfold Grid.eraseScreen
  by_cases below : p.row < row
  · rw [if_pos (by show top + p.row < top + row; omega),covered.clear row col (by omega)]
  · rw [if_neg (by show ¬ top + p.row < top + row; omega)]
    by_cases before : row < p.row ∨ row = p.row ∧ col < p.col
    · rw [eraseLineBefore covered left before]
      exact covered.front row col low left bound before
    · obtain rfl : row = p.row := by omega
      unfold Grid.eraseLine
      rw [if_pos ⟨rfl,by show p.col ≤ col; omega⟩,covered.clear p.row col before]

theorem coveredEraseScreen (covered : Covered width top screen canvas p) :
    Covered width top (screen.eraseScreen ⟨top + p.row,p.col⟩) canvas p := by
  refine ⟨?_,covered.clear,.inr ?_⟩
  · intro row col low left bound _
    exact eraseScreenShows covered low left bound
  · have gone : screen.eraseScreen ⟨top + p.row,p.col⟩ ⟨top + p.row,p.col⟩ = .blank := by
      simp [Grid.eraseScreen,Grid.eraseLine]
    rw [gone]
    exact nofun

theorem inscribeSpace (covered : Covered width top screen canvas p) : canvas.inscribe p ' ' = canvas := by
  have one : ¬ Text.cellWidth ' ' = 2 := by decide
  funext q
  simp only [Grid.inscribe,one,false_and,if_false]
  split
  · rename_i here
    subst here
    exact (covered.clear q.row q.col (by omega)).symm
  · rfl

end

section
variable {width : Nat} {top : Int} {t : Terminal} {canvas : Grid} {p : Position} {c : Char}

theorem paintedPrint (painted : Painted width top t canvas p)
    (cells : Text.cellWidth c = 1 ∨ Text.cellWidth c = 2) (fits : p.col + Text.cellWidth c < width) :
    Painted width top (t.print width c) (canvas.inscribe p c) ⟨p.row,p.col + Text.cellWidth c⟩ := by
  obtain ⟨⟨ground,settled⟩,cursor,covered,low,left,right⟩ := painted
  have some : ¬ (Text.cellWidth c : Int) = 0 := by omega
  have inside : ¬ (width : Int) < p.col + Text.cellWidth c := by omega
  have short : ¬ (width : Int) ≤ p.col + Text.cellWidth c := by omega
  have done : t.print width c = { t with
      cursor := ⟨top + p.row,p.col + Text.cellWidth c⟩
      pending := false
      grid := t.grid.putChar ⟨top + p.row,p.col⟩ c } := by
    simp only [Terminal.print,some,if_false,cursor,settled,Bool.false_eq_true,false_or,inside,short]
  rw [done]
  exact ⟨⟨ground,rfl⟩,rfl,coveredChar covered cells,low,by simp only; omega,fits⟩

theorem feedWrap {t : Terminal} (ground : t.intake = .ground) :
    t.feed width ('\r' :: '\n' :: Escape.eraseScreen) = { t with
      cursor := ⟨t.cursor.row + 1,0⟩
      pending := false
      grid := t.grid.eraseScreen ⟨t.cursor.row + 1,0⟩ } := by
  have parted : '\r' :: '\n' :: Escape.eraseScreen = ['\r','\n'] ++ Escape.eraseScreen := rfl
  rw [parted,Terminal.feedAppend,Terminal.feedReturn ground]
  exact Terminal.feedEraseScreen ground

theorem paintedFill (painted : Painted width top t canvas p) (visible : Text.isControl c = false)
    (cells : Text.cellWidth c = 1 ∨ Text.cellWidth c = 2) (fills : p.col + Text.cellWidth c = width)
    (wide : 4 < width) :
    Painted width top (t.feed width (c :: '\r' :: '\n' :: Escape.eraseScreen)) (canvas.inscribe p c)
      ⟨p.row + 1,0⟩ := by
  obtain ⟨⟨ground,settled⟩,cursor,covered,low,left,right⟩ := painted
  have some : ¬ (Text.cellWidth c : Int) = 0 := by omega
  have inside : ¬ (width : Int) < p.col + Text.cellWidth c := by omega
  have full : (width : Int) ≤ p.col + Text.cellWidth c := by omega
  have done : t.print width c = { t with
      cursor := ⟨top + p.row,width - 1⟩
      pending := true
      grid := t.grid.putChar ⟨top + p.row,p.col⟩ c } := by
    simp only [Terminal.print,some,if_false,cursor,settled,Bool.false_eq_true,false_or,inside,full,if_true]
  have below : top + p.row + 1 = top + (p.row + 1) := Int.add_assoc _ _ _
  rw [Terminal.feedCons,Terminal.stepPrint ground visible,done,feedWrap (by exact ground)]
  simp only [below]
  have next := coveredRowEnd (coveredChar covered cells) (by simp only; omega)
  exact ⟨⟨ground,rfl⟩,rfl,coveredEraseScreen next,by simp only; omega,Int.le_refl 0,by simp only; omega⟩

theorem paintedLeaveRow (painted : Painted width top t canvas p) (wide : 4 < width) :
    Painted width top (t.feed width (Escape.eraseLine ++ ['\r','\n'])) canvas ⟨p.row + 1,0⟩ := by
  obtain ⟨⟨ground,settled⟩,cursor,covered,low,left,right⟩ := painted
  have below : top + p.row + 1 = top + (p.row + 1) := Int.add_assoc _ _ _
  rw [Terminal.feedAppend,Terminal.feedEraseLine ground,Terminal.feedReturn (by exact ground)]
  simp only [cursor,below]
  have next := coveredRowEnd (coveredEraseLine covered right) (Int.le_refl _)
  exact ⟨⟨ground,rfl⟩,rfl,next,by simp only; omega,Int.le_refl 0,by simp only; omega⟩

theorem paintedEraseScreen (painted : Painted width top t canvas p) :
    Painted width top (t.feed width Escape.eraseScreen) canvas p := by
  obtain ⟨⟨ground,settled⟩,cursor,covered,low,left,right⟩ := painted
  rw [Terminal.feedEraseScreen ground,cursor]
  exact ⟨⟨ground,settled⟩,rfl,coveredEraseScreen covered,low,left,right⟩

theorem paintedShows (painted : Painted width top t canvas p) {row col : Int} (low : 0 ≤ row)
    (left : 0 ≤ col) (right : col < width) :
    (t.feed width Escape.eraseScreen).grid ⟨top + row,col⟩ = canvas ⟨row,col⟩ := by
  rw [Terminal.feedEraseScreen painted.idle.ground,painted.cursor]
  exact eraseScreenShows painted.covered low left right

theorem paintedSpaces (n : Nat) (painted : Painted width top t canvas p) (fits : p.col + n < width) :
    Painted width top (t.feed width (List.replicate n ' ')) canvas ⟨p.row,p.col + n⟩ := by
  induction n generalizing t p with
  | zero =>
    rw [Int.natCast_zero,Int.add_zero]
    exact painted
  | succ n ih =>
    have one : Text.cellWidth ' ' = 1 := by decide
    have first := paintedPrint (c := ' ') painted (.inl one) (by rw [one]; omega)
    rw [inscribeSpace painted.covered,one] at first
    have rest := ih first (by simp only; omega)
    have next : p.col + (1 : Nat) + n = p.col + (n + 1 : Nat) := by omega
    rw [List.replicate_succ,Terminal.feedCons,Terminal.stepPrint painted.idle.ground (by decide),← next]
    exact rest

theorem paintedEffect (painted : Painted width top t canvas p) (wide : 4 < width) (plain : Plain c) :
    Painted width top (t.feed width ((advance p c width).2.output c)) (Layout.inscribe width p canvas c)
      (advance p c width).1 := by
  rcases Layout.advancePlain wide painted.left painted.right plain with
    ⟨rfl,step⟩ | ⟨visible,cells,⟨fits,step⟩ | ⟨fills,step⟩ | ⟨_,two,step⟩⟩
  · rw [Layout.inscribe,step]
    have parted : Effect.newline.output '\n' =
        Escape.eraseLine ++ ['\r','\n'] ++ List.replicate continuationIndent ' ' := by
      simp [Effect.output]
    rw [parted,Terminal.feedAppend]
    have row := paintedLeaveRow painted wide
    have indent := paintedSpaces continuationIndent row (by show 0 + 4 < (width : Int); omega)
    exact indent
  · rw [Layout.inscribe,step]
    have done := paintedPrint painted cells fits
    rw [← Terminal.stepPrint painted.idle.ground visible] at done
    exact done
  · rw [Layout.inscribe,step]
    exact paintedFill painted visible cells fills wide
  · rw [Layout.inscribe,step]
    have parted : Effect.wrapPrint.output c =
        Escape.eraseLine ++ ['\r','\n'] ++ Escape.eraseScreen ++ [c] := by
      simp [Effect.output]
    have row := paintedEraseScreen (paintedLeaveRow painted wide)
    have done := paintedPrint row cells (by rw [two]; simp only; omega)
    rw [two] at done
    rw [parted,Terminal.feedAppend,Terminal.feedAppend,Terminal.feedCons,
      Terminal.stepPrint row.idle.ground visible]
    exact done

end

end ScriptConsole
