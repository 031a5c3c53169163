import ScriptConsole.Proofs.Screen.Replaying

/-! Painting prompt and text again. Hidden runs that are colour sequences change nothing on the
screen, and after a redisplay the screen shows the layout from the row where the cursor came home. -/
namespace ScriptConsole

namespace Escape

inductive Colours : Text → Prop
  | nil : Colours []
  | cons {params rest : Text} (open' : ∀ c ∈ params, c.isDigit = true ∨ c = ';' ∨ c = ':')
      (tail : Colours rest) : Colours ('\x1b' :: '[' :: (params ++ 'm' :: rest))

end Escape

namespace Marked

def runsFrom : Option Text → Text → List Text
  | none,[] => []
  | some run,[] => [run]
  | none,c :: rest => if c = hiddenStart then runsFrom (some []) rest else runsFrom none rest
  | some run,c :: rest =>
      if c = hiddenEnd then run :: runsFrom none rest else runsFrom (some (run ++ [c])) rest

structure Dresses (marked text : Text) : Prop where
  visible : visible marked = text
  hidden : ∀ run ∈ runsFrom none marked, Escape.Colours run

theorem plainDresses {t : Text} (plain : ∀ c ∈ t, Plain c) : Dresses t t := by
  have unmarked : ∀ c ∈ t, c ≠ hiddenStart ∧ c ≠ hiddenEnd := by
    intro c inside
    rcases plain c inside with rfl | ⟨shown,_⟩
    · decide
    · constructor <;> rintro rfl <;> exact absurd shown (by decide)
  refine ⟨visibleWhole unmarked,?_⟩
  induction t with
  | nil => exact nofun
  | cons c rest ih =>
    simp only [runsFrom,(unmarked c List.mem_cons_self).1,if_false]
    exact ih (fun d there => plain d (List.mem_cons_of_mem _ there))
      fun d there => unmarked d (List.mem_cons_of_mem _ there)

end Marked

namespace Terminal

theorem feedColours (width : Nat) {t : Terminal} {sent : Text} (ground : t.intake = .ground)
    (colours : Escape.Colours sent) : t.feed width sent = t := by
  induction colours with
  | nil => rfl
  | cons open' tail ih =>
    rename_i params rest
    have inside : ∀ c ∈ params, Escape.isFinal c = false := by
      intro c there
      rcases open' c there with digit | rfl | rfl
      · exact digitNotFinal digit
      · decide
      · decide
    have parted : '\x1b' :: '[' :: (params ++ 'm' :: rest) = '\x1b' :: '[' :: (params ++ ['m']) ++ rest := by
      simp
    rw [parted,feedAppend,feedControl ground inside (by decide)]
    exact ih

end Terminal

namespace Layout

theorem walkInside {width : Nat} {p : Position} {t : Text} (wide : 4 < width) (left : 0 ≤ p.col)
    (right : p.col < width) (plain : ∀ c ∈ t, Plain c) :
    p.row ≤ (walk width p t).row ∧ 0 ≤ (walk width p t).col ∧ (walk width p t).col < width := by
  induction t generalizing p with
  | nil => exact ⟨Int.le_refl _,left,right⟩
  | cons c rest ih =>
    have next : p.row ≤ (advance p c width).1.row ∧ 0 ≤ (advance p c width).1.col ∧
        (advance p c width).1.col < width := by
      rcases advancePlain wide left right (plain c List.mem_cons_self) with
        ⟨_,step⟩ | ⟨_,_,⟨_,step⟩ | ⟨_,step⟩ | ⟨_,_,step⟩⟩ <;>
        rw [step] <;> refine ⟨?_,?_,?_⟩ <;> simp only <;> omega
    obtain ⟨below,inside⟩ := ih next.2.1 next.2.2 fun d there => plain d (List.mem_cons_of_mem _ there)
    exact ⟨Int.le_trans next.1 below,inside⟩

end Layout

namespace Display
variable {width : Nat}

theorem paintedReplay {top : Int} {offset : Option Nat} (wide : 4 < width) {marked : Text}
    (run : Option Text) (k : Nat) {p : Position} (target : Option Position) {t : Terminal}
    {canvas : Grid} (painted : Painted width top t canvas p)
    (plain : ∀ c ∈ Marked.visibleFrom run.isSome marked, Plain c)
    (hidden : ∀ run' ∈ Marked.runsFrom run marked, Escape.Colours run') :
    Painted width top
        ((t.feed width (run.getD [])).feed width (replayFrom width offset k run.isSome p target marked).out)
        (Layout.canvasFrom width p canvas (Marked.visibleFrom run.isSome marked))
        (Layout.walk width p (Marked.visibleFrom run.isSome marked)) ∧
      (replayFrom width offset k run.isSome p target marked).current =
        Layout.walk width p (Marked.visibleFrom run.isSome marked) := by
  -- `painted` speaks of the terminal before the open run, all of which has been sent
  induction marked generalizing run k p target t canvas with
  | nil =>
    cases run with
    | none => exact ⟨painted,rfl⟩
    | some run =>
      have ends := Terminal.feedColours width painted.idle.ground (hidden run List.mem_cons_self)
      refine ⟨?_,rfl⟩
      rw [Option.getD_some,ends]
      exact painted
  | cons c rest ih =>
    cases run with
    | some run =>
      simp only [Option.isSome_some,Option.getD_some] at plain ⊢
      by_cases ending : c = Marked.hiddenEnd
      · subst ending
        simp only [Marked.runsFrom,if_true] at hidden
        rw [Marked.visibleEnd] at plain ⊢
        rw [replayEnd,Terminal.feedColours width painted.idle.ground (hidden run List.mem_cons_self)]
        exact ih none k target painted plain fun r there => hidden r (List.mem_cons_of_mem _ there)
      · simp only [Marked.runsFrom,ending,if_false] at hidden
        rw [Marked.visibleInside ending] at plain ⊢
        have others := ih (some (run ++ [c])) k target painted plain hidden
        simp only [Option.isSome_some,Option.getD_some,Terminal.feedAppend] at others
        rw [replayInside _ _ _ _ _ ending]
        exact others
    | none =>
      simp only [Option.isSome_none,Option.getD_none] at plain ⊢
      by_cases start : c = Marked.hiddenStart
      · subst start
        simp only [Marked.runsFrom,if_true] at hidden
        rw [Marked.visibleStart] at plain ⊢
        rw [replayStart]
        exact ih (some []) k target painted plain hidden
      · simp only [Marked.runsFrom,start,if_false] at hidden
        by_cases ending : c = Marked.hiddenEnd
        · subst ending
          rw [Marked.visibleEnd] at plain ⊢
          rw [replayEnd]
          exact ih none k target painted plain hidden
        · rw [Marked.visibleShown start ending] at plain ⊢
          rw [replayShown _ _ _ _ _ start ending _ rfl]
          have here := paintedEffect painted wide (plain c List.mem_cons_self)
          simp only [Terminal.feedAppend]
          exact ih none _ _ here (fun d there => plain d (List.mem_cons_of_mem _ there)) hidden

theorem paintedDressed {top : Int} (offset : Option Nat) (wide : 4 < width) {marked text : Text}
    {p : Position} {t : Terminal} {canvas : Grid} (painted : Painted width top t canvas p)
    (dressed : Marked.Dresses marked text) (plain : ∀ c ∈ text, Plain c) :
    Painted width top (t.feed width (replayFrom width offset 0 false p none marked).out)
        (Layout.canvasFrom width p canvas text) (Layout.walk width p text) ∧
      (replayFrom width offset 0 false p none marked).current = Layout.walk width p text := by
  obtain ⟨visible,hidden⟩ := dressed
  subst visible
  exact paintedReplay wide none 0 none painted plain hidden

theorem moveToFeeds {d : Display} {t : Terminal} {base : Int} (idle : t.Idle)
    (cursor : t.cursor = ⟨base + d.current.row,d.current.col⟩) {target : Position} (left : 0 ≤ target.col)
    (right : target.col < width) (narrow : width ≤ Escape.limit) :
    ∃ out, d.moveTo target = ({ d with current := target },out) ∧ t.feed width out = { t with
      cursor := ⟨base + d.current.row + Terminal.reached (target.row - d.current.row),target.col⟩ } := by
  refine ⟨_,rfl,?_⟩
  split
  · rename_i same
    obtain ⟨rows,cols⟩ := Position.mk.inj same
    have still : Terminal.reached (target.row - d.current.row) = 0 := by
      rw [Terminal.reached,Position.wrapSame rows]
      decide
    have cols : target.col = d.current.col := cols
    rw [still,Int.add_zero,cols,← cursor]
    rfl
  · rw [Terminal.feedAppend,Terminal.feedVertical idle,cursor]
    exact Terminal.feedColumn (by exact ⟨idle.ground,idle.settled⟩) left right narrow

def ShowsFrom (width : Nat) (top : Int) (t : Terminal) (text : Text) : Prop :=
  ∀ row col : Int, 0 ≤ row → 0 ≤ col → col < width →
    t.grid ⟨top + row,col⟩ = Layout.canvas width text ⟨row,col⟩

/- Where the home move lands and where the cursor parks, with what is then on the screen. -/
theorem redisplayShows {d : Display} {t : Terminal} {base : Int} {prompt marked lead before after : Text}
    (wide : 4 < width) (narrow : width ≤ Escape.limit) (idle : t.Idle)
    (cursor : t.cursor = ⟨base + d.current.row,d.current.col⟩)
    (kept : ∀ old, d.width = some old → old = width) (prompted : Marked.Dresses prompt lead)
    (dressed : Marked.Dresses marked (before ++ after)) (plainLead : ∀ c ∈ lead, Plain c)
    (plain : ∀ c ∈ before ++ after, Plain c) {home : Int}
    (landing : home = base + d.current.row + Terminal.reached (0 - d.current.row)) :
    ∃ out, d.redisplay prompt marked (Text.size before) width =
        ({ current := Layout.walk width .origin (lead ++ before), width := some width,
           point := Text.size before, finish := Layout.walk width .origin (lead ++ (before ++ after)) },
          Layout.walk width .origin (lead ++ before),out) ∧
      (t.feed width out).Idle ∧ ShowsFrom width home (t.feed width out) (lead ++ (before ++ after)) ∧
      (t.feed width out).cursor =
        ⟨home + (Layout.walk width .origin (lead ++ (before ++ after))).row + Terminal.reached
          ((Layout.walk width .origin (lead ++ before)).row -
            (Layout.walk width .origin (lead ++ (before ++ after))).row),
          (Layout.walk width .origin (lead ++ before)).col⟩ := by
  have start : 0 ≤ Position.origin.col ∧ Position.origin.col < (width : Int) :=
    ⟨Int.le_refl 0,by show (0 : Int) < width; omega⟩
  obtain ⟨homeOut,homed,homeFed⟩ := moveToFeeds idle cursor start.1 start.2 narrow
  have blank : Painted width home (t.feed width homeOut) .empty .origin := by
    rw [homeFed]
    refine ⟨⟨idle.ground,idle.settled⟩,?_,⟨?_,fun _ _ _ => rfl,.inl rfl⟩,Int.le_refl 0,start.1,start.2⟩
    · have none : Position.origin.row = 0 := rfl
      simp only [none,landing,Int.add_zero]
    · intro row col low left _ earlier
      have none : Position.origin.row = 0 ∧ Position.origin.col = 0 := ⟨rfl,rfl⟩
      omega
  obtain ⟨first,firstAt⟩ := paintedDressed none wide blank prompted plainLead
  obtain ⟨second,secondAt⟩ := paintedDressed (some (Text.size before)) wide first dressed plain
  have target := replayTarget width false 0 (Layout.walk width .origin lead) dressed.visible
  rw [Nat.zero_add] at target
  rw [← Layout.walkAppend,← Layout.canvasFromAppend] at second
  rw [← Layout.walkAppend] at secondAt target
  have shown := paintedEraseScreen second
  have parked := Layout.walkInside (t := lead ++ before) wide start.1 start.2 fun c h =>
    (List.mem_append.mp h).elim (plainLead c) fun h => plain c (List.mem_append_left _ h)
  obtain ⟨parkOut,moved,parkFed⟩ := moveToFeeds
    (d := { d with current := Layout.walk width .origin (lead ++ (before ++ after)) })
    shown.idle shown.cursor parked.2.1 parked.2.2 narrow
  refine ⟨homeOut ++ (replayFrom width none 0 false .origin none prompt).out ++
    (replayFrom width (some (Text.size before)) 0 false (Layout.walk width .origin lead) none marked).out ++
    Escape.eraseScreen ++ parkOut,?_,?_⟩
  · simp only [redisplay,redisplaySame kept,homed,paint,replay,firstAt,secondAt,target,Option.getD_some,moved]
  · simp only [Terminal.feedAppend]
    rw [parkFed]
    exact ⟨⟨shown.idle.ground,shown.idle.settled⟩,fun row col => paintedShows second,rfl⟩

theorem leaveFeeds {d : Display} {t : Terminal} {base : Int} (idle : t.Idle)
    (cursor : t.cursor = ⟨base + d.current.row,d.current.col⟩) (left : 0 ≤ d.finish.col)
    (right : d.finish.col < width) (narrow : width ≤ Escape.limit) :
    ∃ out, d.leave = (d.reset,out) ∧ t.feed width out = { t with cursor :=
      ⟨base + d.current.row + Terminal.reached (d.finish.row - d.current.row) + 1,0⟩ } := by
  obtain ⟨out,moved,fed⟩ := moveToFeeds idle cursor left right narrow
  refine ⟨out ++ ['\r','\n'],by simp only [leave,moved,reset],?_⟩
  rw [Terminal.feedAppend,fed,Terminal.feedReturn (by exact idle.ground),← idle.settled]

end Display

end ScriptConsole
