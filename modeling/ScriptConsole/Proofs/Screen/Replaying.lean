import ScriptConsole.Screen.Display
import ScriptConsole.Proofs.Text.Offset
import ScriptConsole.Proofs.Screen.Painting

/-! What a replay of marked text comes to. The cursor ends behind the visible text, and a target is
found exactly when the offset falls between two visible characters; markers, wherever they stand, and
what they hide count for nothing. A redisplay is a way home and two replays from there. -/
namespace ScriptConsole

namespace Marked

theorem visibleStart (rest : Text) : visibleFrom false (hiddenStart :: rest) = visibleFrom true rest := rfl

theorem visibleEnd (hidden : Bool) (rest : Text) :
    visibleFrom hidden (hiddenEnd :: rest) = visibleFrom false rest := rfl

theorem visibleInside {c : Char} (ending : c ≠ hiddenEnd) (rest : Text) :
    visibleFrom true (c :: rest) = visibleFrom true rest := by
  simp only [visibleFrom,ending,if_false,if_true,ite_self]

theorem visibleShown {c : Char} (start : c ≠ hiddenStart) (ending : c ≠ hiddenEnd) (rest : Text) :
    visibleFrom false (c :: rest) = c :: visibleFrom false rest := by
  simp only [visibleFrom,start,ending,if_false,Bool.false_eq_true]

@[elab_as_elim]
theorem readingInduction {motive : Bool → Text → Prop} (nil : ∀ hidden, motive hidden [])
    (ending : ∀ hidden rest, motive false rest → motive hidden (hiddenEnd :: rest))
    (inside : ∀ c rest, c ≠ hiddenEnd → motive true rest → motive true (c :: rest))
    (start : ∀ rest, motive true rest → motive false (hiddenStart :: rest))
    (shown : ∀ c rest, c ≠ hiddenStart → c ≠ hiddenEnd → motive false rest → motive false (c :: rest))
    (hidden : Bool) (t : Text) : motive hidden t := by
  induction t generalizing hidden with
  | nil => exact nil hidden
  | cons c rest ih =>
    by_cases ends : c = hiddenEnd
    · rw [ends]
      exact ending hidden rest (ih false)
    · cases hidden with
      | true => exact inside c rest ends (ih true)
      | false =>
        by_cases starts : c = hiddenStart
        · rw [starts]
          exact start rest (ih true)
        · exact shown c rest starts ends (ih false)

theorem visibleUnmarked (hidden : Bool) (t : Text) :
    ∀ c ∈ visibleFrom hidden t, c ≠ hiddenStart ∧ c ≠ hiddenEnd := by
  induction hidden, t using readingInduction with
  | nil hidden => exact nofun
  | ending hidden rest ih => exact ih
  | inside c rest ends ih =>
    rw [visibleInside ends]
    exact ih
  | start rest ih => exact ih
  | shown c rest starts ends ih =>
    rw [visibleShown starts ends]
    exact List.forall_mem_cons.mpr ⟨⟨starts,ends⟩,ih⟩

theorem visibleWhole {t : Text} (unmarked : ∀ c ∈ t, c ≠ hiddenStart ∧ c ≠ hiddenEnd) : visible t = t := by
  induction t with
  | nil => rfl
  | cons c rest ih =>
    obtain ⟨⟨start,ending⟩,others⟩ := List.forall_mem_cons.mp unmarked
    rw [visible,visibleShown start ending]
    exact congrArg (c :: ·) (ih others)

theorem visibleTwice (t : Text) : visible (visible t) = visible t := visibleWhole (visibleUnmarked false t)

end Marked

namespace Layout

theorem advanceDescends (p : Position) (c : Char) (width : Nat) : p.row ≤ (advance p c width).1.row := by
  have next : p.row ≤ p.row + 1 := by omega
  unfold advance
  split
  · exact next
  · split
    · exact Int.le_refl _
    · dsimp only
      by_cases beyond : 0 < p.col ∧ max (width : Int) 1 < p.col + Text.cellWidth c
      · rw [if_pos beyond]
        split
        · exact Int.le_trans next (by simp only; omega)
        · exact next
      · rw [if_neg beyond]
        split
        · exact next
        · exact Int.le_refl _

theorem walkDescends (width : Nat) (p : Position) (t : Text) : p.row ≤ (walk width p t).row := by
  induction t generalizing p with
  | nil => exact Int.le_refl _
  | cons c rest ih => exact Int.le_trans (advanceDescends p c width) (ih _)

def place? (width : Nat) (p : Position) (t : Text) (point : Nat) : Option Position :=
  (Text.split? t point).map fun parts => walk width p parts.1

theorem placeIff {width : Nat} {p q : Position} {t : Text} {point : Nat} :
    place? width p t point = some q ↔
      ∃ before after, t = before ++ after ∧ point = Text.size before ∧ q = walk width p before := by
  constructor
  · intro found
    obtain ⟨⟨before,after⟩,split,stands⟩ := Option.map_eq_some_iff.mp found
    obtain ⟨whole,offset⟩ := Text.splitSound split
    exact ⟨before,after,whole,offset,stands.symm⟩
  · rintro ⟨before,after,rfl,rfl,rfl⟩
    rw [place?,Text.splitAppend]
    rfl

section
variable {width point : Nat} {p : Position} {c : Char} {rest : Text}

theorem placeFirst : place? width p rest 0 = some p := by cases rest <;> rfl

theorem placeBehind (later : 0 < point) (fits : c.utf8Size ≤ point) :
    place? width p (c :: rest) point = place? width (advance p c width).1 rest (point - c.utf8Size) := by
  obtain ⟨n,rfl⟩ := Nat.exists_eq_succ_of_ne_zero (Nat.pos_iff_ne_zero.mp later)
  rw [place?,Text.split?,if_pos fits,Option.map_map]
  rfl

theorem placeInside (later : 0 < point) (inside : point < c.utf8Size) :
    place? width p (c :: rest) point = none := by
  obtain ⟨n,rfl⟩ := Nat.exists_eq_succ_of_ne_zero (Nat.pos_iff_ne_zero.mp later)
  rw [place?,Text.split?,if_neg (Nat.not_le_of_lt inside)]
  rfl

end

def stand (width : Nat) (p : Position) (t : Text) (point : Nat) : Position :=
  (place? width p t point).getD (walk width p t)

theorem standDescends (width : Nat) (p : Position) (t : Text) (point : Nat) :
    p.row ≤ (stand width p t point).row := by
  rw [stand,place?]
  cases Text.split? t point with
  | none => exact walkDescends width p t
  | some parts => exact walkDescends width p parts.1

theorem standAppend (width : Nat) (p : Position) (before after : Text) :
    stand width p (before ++ after) (Text.size before) = walk width p before := by
  rw [stand,placeIff.mpr ⟨before,after,rfl,rfl,rfl⟩]
  rfl

end Layout

namespace Display
variable {width : Nat}

section
variable (offset : Option Nat) (k : Nat) (p : Position) (target : Option Position) (rest : Text)

theorem replayStart : replayFrom width offset k false p target (Marked.hiddenStart :: rest) =
    replayFrom width offset k true p target rest := rfl

theorem replayEnd (hidden : Bool) : replayFrom width offset k hidden p target (Marked.hiddenEnd :: rest) =
    replayFrom width offset k false p target rest := by
  cases hidden <;> rfl

theorem replayInside {c : Char} (ending : c ≠ Marked.hiddenEnd) :
    replayFrom width offset k true p target (c :: rest) =
      { replayFrom width offset k true p target rest with
        out := c :: (replayFrom width offset k true p target rest).out } := by
  simp only [replayFrom,ending,if_true,if_false]

theorem replayShown {c : Char} (start : c ≠ Marked.hiddenStart) (ending : c ≠ Marked.hiddenEnd)
    (target' : Option Position) (met : target' = if target.isNone && offset = some k then some p else target) :
    replayFrom width offset k false p target (c :: rest) =
      let later := replayFrom width offset (k + c.utf8Size) false (advance p c width).1 target' rest
      { later with out := (advance p c width).2.output c ++ later.out } := by
  subst met
  simp only [replayFrom,start,ending,if_false,Bool.false_eq_true]

end

theorem replayReached (width : Nat) (offset : Option Nat) (marked : Text) (k : Nat) (hidden : Bool)
    (p reached : Position) :
    (replayFrom width offset k hidden p (some reached) marked).target = some reached := by
  induction hidden, marked using Marked.readingInduction generalizing k p with
  | nil hidden => rfl
  | ending hidden rest ih =>
    rw [replayEnd]
    exact ih k p
  | inside c rest ends ih =>
    rw [replayInside _ _ _ _ _ ends]
    exact ih k p
  | start rest ih => exact ih k p
  | shown c rest starts ends ih =>
    rw [replayShown _ _ _ _ _ starts ends _ rfl]
    exact ih _ _

theorem replayWalks (width : Nat) (offset : Option Nat) (k : Nat) (hidden : Bool) (p : Position)
    (target : Option Position) (marked : Text) :
    (replayFrom width offset k hidden p target marked).current =
      Layout.walk width p (Marked.visibleFrom hidden marked) := by
  induction hidden, marked using Marked.readingInduction generalizing k p target with
  | nil hidden => rfl
  | ending hidden rest ih =>
    rw [replayEnd,Marked.visibleEnd]
    exact ih k p target
  | inside c rest ends ih =>
    rw [replayInside _ _ _ _ _ ends,Marked.visibleInside ends]
    exact ih k p target
  | start rest ih => exact ih k p target
  | shown c rest starts ends ih =>
    rw [replayShown _ _ _ _ _ starts ends _ rfl,Marked.visibleShown starts ends]
    exact ih _ _ _

theorem replayPassed (width : Nat) {offset : Option Nat} {k : Nat}
    (passed : ∀ point, offset = some point → point < k) (hidden : Bool) (p : Position) (marked : Text) :
    (replayFrom width offset k hidden p none marked).target = none := by
  have unmet : ∀ {k}, (∀ point, offset = some point → point < k) → ¬ offset = some k :=
    fun passed same => Nat.lt_irrefl _ (passed _ same)
  induction hidden, marked using Marked.readingInduction generalizing k p with
  | nil hidden => simp [replayFrom,unmet passed]
  | ending hidden rest ih =>
    rw [replayEnd]
    exact ih passed p
  | inside c rest ends ih =>
    rw [replayInside _ _ _ _ _ ends]
    exact ih passed p
  | start rest ih => exact ih passed p
  | shown c rest starts ends ih =>
    rw [replayShown _ _ _ _ _ starts ends none (by simp [unmet passed])]
    exact ih (fun point same => Nat.lt_add_right _ (passed point same)) _

theorem replayPlace (width k point : Nat) (hidden : Bool) (p : Position) (marked : Text) :
    (replayFrom width (some (k + point)) k hidden p none marked).target =
      Layout.place? width p (Marked.visibleFrom hidden marked) point := by
  induction hidden, marked using Marked.readingInduction generalizing k point p with
  | nil hidden => cases point <;> simp [replayFrom,Marked.visibleFrom,Layout.place?,Text.split?,Layout.walk]
  | ending hidden rest ih =>
    rw [replayEnd]
    exact ih k point p
  | inside c rest ends ih =>
    rw [replayInside _ _ _ _ _ ends,Marked.visibleInside ends]
    exact ih k point p
  | start rest ih => exact ih k point p
  | shown c rest starts ends ih =>
    rw [Marked.visibleShown starts ends]
    rcases Nat.eq_zero_or_pos point with rfl | later
    · rw [replayShown _ _ _ _ _ starts ends (some p) (by simp),Layout.placeFirst]
      exact replayReached width _ rest _ false _ p
    · have unmet : ¬ some (k + point) = some k := by
        simp only [Option.some.injEq]
        omega
      rw [replayShown _ _ _ _ _ starts ends none (by simp [unmet])]
      by_cases fits : c.utf8Size ≤ point
      · have moved : k + point = k + c.utf8Size + (point - c.utf8Size) := by omega
        rw [Layout.placeBehind later fits,moved]
        exact ih _ _ _
      · -- the offset lies inside the character
        have passed : ∀ offset, some (k + point) = some offset → offset < k + c.utf8Size := by
          intro offset same
          rw [← Option.some.inj same]
          omega
        rw [Layout.placeInside later (Nat.lt_of_not_le fits)]
        exact replayPassed width passed false _ rest

theorem replayTarget (width : Nat) {marked before after : Text} (hidden : Bool) (k : Nat) (p : Position)
    (visible : Marked.visibleFrom hidden marked = before ++ after) :
    (replayFrom width (some (k + Text.size before)) k hidden p none marked).target =
      some (Layout.walk width p before) := by
  rw [replayPlace,visible]
  exact Layout.placeIff.mpr ⟨before,after,rfl,rfl,rfl⟩

theorem measured (d : Display) (marked : Text) (offset : Option Nat) (width : Nat) :
    d.measure marked offset width =
      ({ d with current := Layout.walk width d.current (Marked.visible marked) },
        offset.bind (Layout.place? width d.current (Marked.visible marked))) := by
  have target : (d.replay marked offset width).target =
      offset.bind (Layout.place? width d.current (Marked.visible marked)) := by
    cases offset with
    | none =>
      have unsought : ∀ point, none = some point → point < 0 := nofun
      exact replayPassed width unsought false d.current marked
    | some point =>
      have here := replayPlace width 0 point false d.current marked
      rwa [Nat.zero_add] at here
  rw [measure,target,replay,replayWalks]
  rfl

def passage (start target : Position) : Text :=
  if target.held = start.held then []
  else Escape.vertical (Position.wrap (target.row - start.row)) ++ Escape.column target.col

theorem moveToPasses (d : Display) (target : Position) :
    d.moveTo target = ({ d with current := target },passage d.current target) := rfl

theorem passageClimbs {columns : Nat} {t : Terminal} (idle : t.Idle) {p : Position} (low : 0 ≤ p.row)
    (few : p.row < Position.rowEnd) :
    (t.feed columns (passage p .origin)).cursor.row = t.cursor.row - min p.row Escape.limit := by
  have limit : (Escape.limit : Int) = 65535 := rfl
  unfold passage
  rw [Position.heldExact low few]
  split
  · rename_i here
    rw [← here]
    exact (Int.sub_zero _).symm
  · rw [Terminal.feedAppend,Terminal.feedVertical idle,
      Terminal.feedColumnRow (by exact ⟨idle.ground,idle.settled⟩)]
    show t.cursor.row + Terminal.reached (0 - p.row) = _
    rw [Terminal.reachedClipped (by omega) (by omega),Terminal.clipped]
    omega

def homing (d : Display) (prompt marked : Text) (width : Nat) : Text :=
  passage (d.resync prompt marked width).current .origin

theorem redisplayParts (d : Display) (prompt marked : Text) (point width : Nat) :
    d.redisplay prompt marked point width =
      ((redisplay {} prompt marked point width).1,(redisplay {} prompt marked point width).2.1,
        d.homing prompt marked width ++ (redisplay {} prompt marked point width).2.2) := by
  have start : (resync {} prompt marked width).current = .origin := rfl
  have still : passage .origin .origin = [] := rfl
  simp only [redisplay,start,still,moveToPasses,paint,replay,homing,List.nil_append,List.append_assoc]

theorem redisplaySame {d : Display} {prompt marked : Text} (kept : ∀ old, d.width = some old → old = width) :
    d.resync prompt marked width = d := by
  unfold resync
  split
  · rfl
  · rename_i old h
    rw [if_pos (kept old h)]

theorem resizedResync {d : Display} {old : Nat} (painted : d.width = some old) (resized : old ≠ width)
    (prompt marked : Text) : (d.resync prompt marked width).current =
      Layout.stand width (Layout.walk width .origin (Marked.visible prompt)) (Marked.visible marked) d.point := by
  rw [resync,painted]
  simp only [if_neg resized,measured]
  rfl

theorem redisplayParks (d : Display) (prompt marked : Text) (point width : Nat) :
    let first := Layout.walk width .origin (Marked.visible prompt)
    let parked := Layout.stand width first (Marked.visible marked) point
    (d.redisplay prompt marked point width).2.1 = parked ∧
    (d.redisplay prompt marked point width).1 =
      ⟨parked,some width,point,Layout.walk width first (Marked.visible marked)⟩ := by
  intro first parked
  have prompted : (replayFrom width none 0 false .origin none prompt).current = first :=
    replayWalks width none 0 false .origin none prompt
  have behind := replayWalks width (some point) 0 false first none marked
  have target := replayPlace width 0 point false first marked
  rw [Nat.zero_add] at target
  rw [redisplayParts]
  simp only [redisplay,moveToPasses,paint,replay,prompted,behind,target]
  exact ⟨rfl,rfl⟩

/- The markers of a text do not show in what a replay comes to: neither in the cursor nor in the target,
which is the place behind as many visible bytes as the offset says. -/
theorem replayIgnoresMarkers (d : Display) (marked : Text) (offset : Option Nat) (width : Nat) :
    d.measure marked offset width = d.measure (Marked.visible marked) offset width ∧
    (d.paint marked offset width).1 = (d.measure (Marked.visible marked) offset width).1 ∧
    (d.paint marked offset width).2.1 = (d.measure (Marked.visible marked) offset width).2 ∧
    (d.measure marked offset width).1.current = Layout.walk width d.current (Marked.visible marked) ∧
    (∀ q, (d.measure marked offset width).2 = some q ↔ ∃ before after,
      Marked.visible marked = before ++ after ∧ offset = some (Text.size before) ∧
        q = Layout.walk width d.current before) ∧
    ∀ (d' : Display) (prompt other : Text) (point : Nat), Marked.visible other = Marked.visible marked →
      (d'.redisplay prompt other point width).2.1 = (d.redisplay prompt marked point width).2.1 ∧
      (d'.redisplay prompt other point width).1 = (d.redisplay prompt marked point width).1 := by
  have same : d.measure marked offset width = d.measure (Marked.visible marked) offset width := by
    rw [measured,measured,Marked.visibleTwice]
  refine ⟨same,congrArg Prod.fst same,congrArg Prod.snd same,by rw [measured],fun q => ?_,?_⟩
  · rw [measured,Option.bind_eq_some_iff]
    constructor
    · rintro ⟨point,rfl,found⟩
      obtain ⟨before,after,whole,rfl,stands⟩ := Layout.placeIff.mp found
      exact ⟨before,after,whole,rfl,stands⟩
    · rintro ⟨before,after,whole,rfl,stands⟩
      exact ⟨_,rfl,Layout.placeIff.mpr ⟨before,after,whole,rfl,stands⟩⟩
  · intro d' prompt other point dressed
    obtain ⟨parks,keeps⟩ := d.redisplayParks prompt marked point width
    obtain ⟨parks',keeps'⟩ := d'.redisplayParks prompt other point width
    rw [parks,keeps,parks',keeps',dressed]
    exact ⟨rfl,rfl⟩

def tangled : Text := [Marked.hiddenEnd,'a',Marked.hiddenStart,Marked.hiddenStart,'m',Marked.hiddenEnd,'b',
  Marked.hiddenStart,'c']

theorem replayIgnoresTangle : Marked.visible ['a','b'] = Marked.visible tangled ∧
    (redisplay {} ['>'] ['a','b'] 1 80).2.1 = (redisplay {} ['>'] tangled 1 80).2.1 :=
  have same : Marked.visible ['a','b'] = Marked.visible tangled := by decide
  ⟨same,((replayIgnoresMarkers {} tangled (some 1) 80).2.2.2.2.2 {} ['>'] ['a','b'] 1 same).1⟩

end Display

end ScriptConsole
