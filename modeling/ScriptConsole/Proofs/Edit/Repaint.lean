import ScriptConsole.Edit.Reader
import ScriptConsole.Proofs.Edit.Keys
import ScriptConsole.Proofs.Screen.Redisplay

/-! One reader and its screen. A redraw shows prompt and text from the row where the home move lands,
which is the row of the prompt as long as the point is within reach of one control sequence. -/
namespace ScriptConsole

namespace LineReader

theorem rowsOfMember {n : Nat} {l row : List Text} (inside : row ∈ rowsOf n l) : ∀ t ∈ row, t ∈ l := by
  induction l using rowsOf.induct n with
  | case1 l done =>
    rw [rowsOf,dif_pos done] at inside
    contradiction
  | case2 l more ih =>
    rw [rowsOf,dif_neg more] at inside
    intro t there
    rcases List.mem_cons.mp inside with rfl | later
    · exact List.mem_of_mem_take there
    · exact List.mem_of_mem_drop (ih later t there)

theorem candidateRowsStart (width : Nat) {t : Terminal} (start : t.AtStart) {l : List Text}
    (calm : ∀ x ∈ l, ∀ c ∈ x, c ≠ '\x1b') (columns : Nat) :
    (t.feed width (candidateRows columns l)).AtStart := by
  unfold candidateRows
  simp only []
  generalize (l.map List.length).foldl max 0 + 2 = column
  have rows : ∀ row ∈ rowsOf (max (columns / column) 1) l, ∀ c ∈ row.flatMap (padded column), c ≠ '\x1b' := by
    intro row inside c there
    obtain ⟨x,member,found⟩ := List.mem_flatMap.mp there
    rcases List.mem_append.mp found with h | h
    · exact calm x (rowsOfMember inside x member) c h
    · rw [List.eq_of_mem_replicate h]
      decide
  generalize rowsOf (max (columns / column) 1) l = listed at rows
  induction listed generalizing t with
  | nil => exact start
  | cons row rest ih =>
    rw [List.flatMap_cons,Terminal.feedAppend]
    exact ih (Terminal.feedRow start.idle.ground (rows row List.mem_cons_self))
      fun row' there => rows row' (List.mem_cons_of_mem _ there)

/- What a reader needs for its screen: a row longer than the indent, plain text, and nothing hidden in
the prompt or by the highlighter but colours. -/
structure Ready (r : LineReader) : Prop where
  wide : 4 < r.width
  narrow : r.width ≤ Escape.limit
  kept : ∀ old, r.display.width = some old → old = r.width
  prompt : Marked.Dresses r.prompt (Marked.visible r.prompt)
  plain : ∀ c ∈ Marked.visible r.prompt, Plain c
  highlighter : ∀ t, (∀ c ∈ t, Plain c) → Marked.Dresses (r.highlighter.highlight t true) t
  sound : r.editor.Sound Plain

theorem soundReady {r : LineReader} {e : Editor} (ready : r.Ready) (sound : e.Sound Plain) :
    Ready { r with editor := e } :=
  ⟨ready.wide,ready.narrow,ready.kept,ready.prompt,ready.plain,ready.highlighter,sound⟩

theorem resetReady {r : LineReader} (ready : r.Ready) : Ready { r with display := r.display.reset } :=
  ⟨ready.wide,ready.narrow,ready.kept,ready.prompt,ready.plain,ready.highlighter,ready.sound⟩

/- The point is not farther from either end of the layout than one vertical move goes. -/
def Within (r : LineReader) : Prop :=
  r.display.current.row ≤ Escape.limit ∧ r.display.finish.row - r.display.current.row ≤ Escape.limit

instance (r : LineReader) : Decidable r.Within := inferInstanceAs (Decidable (_ ∧ _))

def position (r : LineReader) (before : Text) : Position :=
  Layout.walk r.width .origin (Marked.visible r.prompt ++ before)

structure Agrees (r : LineReader) (top : Int) (t : Terminal) : Prop where
  idle : t.Idle
  shows : Display.ShowsFrom r.width top t (Marked.visible r.prompt ++ r.editor.buffer.text)
  cursor : t.cursor = ⟨top + r.display.current.row,r.display.current.col⟩
  point : ∃ before after, r.editor.buffer = Buffer.parts before after ∧
    r.display.current = r.position before
  finish : r.display.finish = r.position r.editor.buffer.text

theorem positionInside {r : LineReader} (ready : r.Ready) {t : Text} (plain : ∀ c ∈ t, Plain c) :
    0 ≤ (r.position t).row ∧ 0 ≤ (r.position t).col ∧ (r.position t).col < r.width := by
  have wide := ready.wide
  have walked := Layout.walkInside (p := .origin) (t := Marked.visible r.prompt ++ t) wide (Int.le_refl 0)
    (by show (0 : Int) < r.width; omega) fun c h => (List.mem_append.mp h).elim (ready.plain c) (plain c)
  exact walked

theorem positionOrder {r : LineReader} (ready : r.Ready) {before after : Text}
    (plain : ∀ c ∈ before ++ after, Plain c) :
    (r.position before).row ≤ (r.position (before ++ after)).row := by
  have inside := positionInside ready fun c h => plain c (List.mem_append_left after h)
  have walked := Layout.walkInside ready.wide inside.2.1 inside.2.2
    fun c h => plain c (List.mem_append_right before h)
  have whole : Layout.walk r.width (r.position before) after = r.position (before ++ after) := by
    rw [position,position,← List.append_assoc,Layout.walkAppend _ _ (Marked.visible r.prompt ++ before)]
  rw [whole] at walked
  exact walked.1

theorem currentLow {r : LineReader} {top : Int} {t : Terminal} (ready : r.Ready) (agrees : r.Agrees top t) :
    0 ≤ r.display.current.row := by
  obtain ⟨before,after,same,current⟩ := agrees.point
  have plain := ready.sound.text
  rw [same] at plain
  rw [current]
  exact (positionInside ready fun c h => plain c (List.mem_append_left after h)).1

def painted (r : LineReader) (before after : Text) : LineReader :=
  { r with display :=
      ⟨r.position before,some r.width,Text.size before,r.position (before ++ after)⟩ }

theorem paintedReady {r : LineReader} (ready : r.Ready) (before after : Text) :
    (r.painted before after).Ready :=
  ⟨ready.wide,ready.narrow,fun _ same => (Option.some.inj same).symm,ready.prompt,ready.plain,
    ready.highlighter,ready.sound⟩

theorem redrawLands {r : LineReader} {t : Terminal} {top : Int} {before after : Text} (ready : r.Ready)
    (idle : t.Idle) (cursor : t.cursor = ⟨top + r.display.current.row,r.display.current.col⟩)
    (parted : r.editor.buffer = Buffer.parts before after) :
    ∃ out, r.redraw = (r.painted before after,out) ∧
      ((r.position (before ++ after)).row - (r.position before).row ≤ Escape.limit →
        (r.painted before after).Agrees
          (top + r.display.current.row + Terminal.reached (0 - r.display.current.row))
          (t.feed r.width out)) := by
  have text : r.editor.buffer.text = before ++ after := by rw [parted]; rfl
  have point : r.editor.buffer.point = Text.size before := by rw [parted]; rfl
  have plain := ready.sound.text
  rw [text] at plain
  obtain ⟨out,drawn,idle',shows,cursor'⟩ := Display.redisplayShows ready.wide ready.narrow idle cursor
    ready.kept ready.prompt (ready.highlighter _ plain) ready.plain plain rfl
  refine ⟨out,?_,?_⟩
  · rw [redraw,text,point]
    simp only [drawn,painted,position]
  · intro far
    have order := positionOrder ready plain
    have whole : (r.painted before after).editor.buffer.text = before ++ after := text
    -- the cursor goes up from the end of the text to the point, which `far` lets it reach
    have back : Terminal.reached ((r.position before).row - (r.position (before ++ after)).row) =
        (r.position before).row - (r.position (before ++ after)).row :=
      Terminal.reachedWithin (by omega) (by omega)
    have parked : (r.position (before ++ after)).row +
        ((r.position before).row - (r.position (before ++ after)).row) = (r.position before).row := by omega
    refine ⟨idle',?_,?_,⟨before,after,parted,rfl⟩,?_⟩
    · rw [whole]
      exact shows
    · simp only [position] at back parked
      rw [cursor',back,Int.add_assoc _ (Position.row _),parked]
      rfl
    · rw [whole]
      rfl

theorem redrawAgrees {r : LineReader} {t : Terminal} {top : Int} (ready : r.Ready) (idle : t.Idle)
    (cursor : t.cursor = ⟨top + r.display.current.row,r.display.current.col⟩)
    (low : 0 ≤ r.display.current.row) (near : r.display.current.row ≤ Escape.limit) :
    ∃ d out, r.redraw = ({ r with display := d },out) ∧ Ready { r with display := d } ∧
      (Within { r with display := d } → Agrees { r with display := d } top (t.feed r.width out)) := by
  obtain ⟨before,after,parted⟩ := ready.sound.placed
  obtain ⟨out,drawn,agrees⟩ := redrawLands ready idle cursor parted
  have home : top + r.display.current.row + Terminal.reached (0 - r.display.current.row) = top := by
    rw [Terminal.reachedWithin (by omega) (by omega)]
    omega
  rw [home] at agrees
  exact ⟨_,out,drawn,paintedReady ready before after,fun within => agrees within.2⟩

theorem leaveAgrees {r : LineReader} {t : Terminal} {top : Int} (ready : r.Ready)
    (agrees : r.Agrees top t) (within : r.Within) :
    r.display.leave.1 = r.display.reset ∧ (t.feed r.width r.display.leave.2) = { t with
      cursor := ⟨top + (r.position r.editor.buffer.text).row + 1,0⟩ } := by
  obtain ⟨near,far⟩ := within
  obtain ⟨before,after,same,current⟩ := agrees.point
  have plain := ready.sound.text
  have order : r.display.current.row ≤ r.display.finish.row := by
    rw [current,agrees.finish]
    rw [same] at plain ⊢
    exact positionOrder ready plain
  have finish := positionInside ready plain
  rw [← agrees.finish] at finish
  obtain ⟨out,left,fed⟩ := Display.leaveFeeds agrees.idle agrees.cursor finish.2.1 finish.2.2 ready.narrow
  rw [Terminal.reachedWithin (by omega) (by omega)] at fed
  have row : top + r.display.current.row + (r.display.finish.row - r.display.current.row) =
      top + r.display.finish.row := by omega
  rw [left,fed,row,agrees.finish]
  exact ⟨rfl,rfl⟩

end LineReader

end ScriptConsole
