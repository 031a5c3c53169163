import ScriptConsole.Proofs.Edit.Trail
import ScriptConsole.Proofs.Edit.Repaint

/-! The screen follows the edited text: at every question for an event it shows prompt and text and
the cursor is at the point, as long as no buffer asks for a vertical move beyond the limit of one
control sequence. -/
namespace ScriptConsole.LineReader.Moment
variable {κ : Type} {s : Surroundings (κ × Signals)}

def top (m : Moment κ) (t : Terminal) : Int := (t.feed m.reader.width m.above).cursor.row

def screen (m : Moment κ) (t : Terminal) : Terminal := t.feed m.reader.width m.written

structure Follows (t : Terminal) (m : Moment κ) : Prop where
  ready : m.reader.Ready
  agrees : m.reader.Agrees (m.top t) (m.screen t)

theorem openingFollows {r : LineReader} {t : Terminal} (ready : r.Ready) (start : t.AtStart)
    (state : κ × Signals) (within : (opening r state).reader.Within) :
    Follows t (opening r state) := by
  have fresh := resetReady ready
  have cursor : t.cursor = ⟨t.cursor.row + 0,0⟩ := by
    rw [Int.add_zero,← start.left]
  have limit : (0 : Int) ≤ Escape.limit := by decide
  obtain ⟨d,out,drawn,ready',agrees⟩ := redrawAgrees fresh start.idle cursor (Int.le_refl 0) limit
  rw [opening,drawn] at within ⊢
  exact ⟨ready',agrees within⟩

theorem listingFollows {t : Terminal} {m : Moment κ} {editor : Editor} {l : List Text} (follows : Follows t m)
    (within : m.reader.Within) (sound : editor.Sound Plain) (listed : ∀ x ∈ l, ∀ c ∈ x, Plain c) :
    ∃ out d, leave { m.reader with editor } =
        ({ m.reader with editor, display := m.reader.display.reset },m.reader.display.leave.2) ∧
      redraw { m.reader with editor, display := m.reader.display.reset } =
        ({ m.reader with editor, display := d },out) ∧
      ∀ state : κ × Signals, Within { m.reader with editor, display := d } →
        Follows t ⟨{ m.reader with editor, display := d },state,
          m.written ++ m.reader.display.leave.2 ++ candidateRows m.reader.width l,out⟩ := by
  obtain ⟨ready,agrees⟩ := follows
  obtain ⟨left,fed⟩ := leaveAgrees ready agrees within
  have shown : t.feed m.reader.width m.written = m.screen t := rfl
  have start : (t.feed m.reader.width (m.written ++ m.reader.display.leave.2)).AtStart := by
    rw [Terminal.feedAppend,shown,fed]
    exact ⟨⟨agrees.idle.ground,agrees.idle.settled⟩,rfl⟩
  have calm : ∀ x ∈ l, ∀ c ∈ x, c ≠ '\x1b' := fun x there c inside => plainCalm (listed x there c inside)
  have rows := candidateRowsStart m.reader.width start calm m.reader.width
  rw [← Terminal.feedAppend] at rows
  have fresh := resetReady (soundReady ready sound)
  have limit : (0 : Int) ≤ Escape.limit := by decide
  have cursor := rows.left
  obtain ⟨d,out,drawn,ready',agrees'⟩ := redrawAgrees fresh rows.idle
    (show _ = Position.mk (_ + 0) 0 by rw [Int.add_zero,← cursor]) (Int.le_refl 0) limit
  refine ⟨out,d,by simp only [leave,left],drawn,fun state within' => ⟨ready',?_⟩⟩
  show Agrees _ _ (t.feed m.reader.width
    (m.written ++ m.reader.display.leave.2 ++ candidateRows m.reader.width l ++ out))
  rw [Terminal.feedAppend]
  exact agrees' within'

theorem afterFollows {t : Terminal} {m m' : Moment κ} {event : Event} (follows : Follows t m)
    (within : m.reader.Within) (supplies : Editor.Supplies Plain s)
    (brought : ∀ c, Editor.Brings event c → Plain c) (step : m.after s event = some m')
    (within' : m'.reader.Within) : Follows t m' := by
  obtain ⟨ready,agrees⟩ := follows
  obtain ⟨o,editor,state,handled,good⟩ := Editor.handleGood plainSpace plainNewline ready.sound supplies
    (m.state.1,m.state.2.takeAbort.1) brought
  have ready' := soundReady ready good.sound
  have low := currentLow ready agrees
  simp only [after,handled] at step
  cases o with
  | ignored =>
    cases step
    have same := good.still rfl
    refine ⟨ready',agrees.idle,?_,agrees.cursor,?_,?_⟩
    · simp only [same]
      exact agrees.shows
    · simp only [same]
      exact agrees.point
    · simp only [same]
      exact agrees.finish
  | changed =>
    -- the cursor is where the last painting left it, also when only the text has changed since
    obtain ⟨d,out,drawn,ready'',agrees'⟩ := redrawAgrees ready' agrees.idle agrees.cursor low within.1
    simp only [drawn] at step
    cases step
    refine ⟨ready'',?_⟩
    show Agrees _ _ (t.feed m.reader.width (m.above ++ (m.since ++ out)))
    rw [← List.append_assoc,Terminal.feedAppend]
    exact agrees' within'
  | candidates l =>
    obtain ⟨out,d,left,drawn,follows'⟩ := listingFollows ⟨ready,agrees⟩ within good.sound (good.listed l rfl)
    simp only [left,drawn] at step
    cases step
    exact follows' state within'
  | submit l => contradiction
  | endOfFile => contradiction
  | abort => contradiction

theorem nextFollows {t : Terminal} {m m' : Moment κ} {poll : Poll} (follows : Follows t m)
    (within : m.reader.Within) (supplies : Editor.Supplies Plain s)
    (brought : ∀ event, poll = .event event → ∀ c, Editor.Brings event c → Plain c)
    (step : m.next s poll = some m') (within' : m'.reader.Within) : Follows t m' := by
  unfold next at step
  split at step
  · contradiction
  · cases poll with
    | nothing => cases step; exact ⟨follows.ready,follows.agrees⟩
    | signal n => cases step; exact ⟨follows.ready,follows.agrees⟩
    | event event => exact afterFollows follows within supplies (brought event rfl) step within'

theorem trailFollows {t : Terminal} {m : Moment κ} {polls : List Poll} (follows : Follows t m)
    (supplies : Editor.Supplies Plain s)
    (brought : ∀ event, .event event ∈ polls → ∀ c, Editor.Brings event c → Plain c)
    (within : ∀ m' ∈ m.trail s polls, m'.reader.Within) : ∀ m' ∈ m.trail s polls, Follows t m' := by
  refine trailAll follows fun m₁ inside m₂ inside' poll given step follows₁ => ?_
  have plain : ∀ event, poll = .event event → ∀ c, Editor.Brings event c → Plain c :=
    fun event same => brought event (by rw [← same]; exact given)
  exact nextFollows follows₁ (within m₁ inside) supplies plain step (within m₂ inside')

theorem handsPlaced {m : Moment κ} (placed : m.reader.editor.buffer.Placed) : m.Hands s := by
  intro event
  have anything : Editor.Supplies (fun _ => True) s := ⟨fun _ _ _ _ => trivial,fun _ _ _ _ _ _ _ => trivial⟩
  have sound : m.reader.editor.Sound fun _ => True := ⟨placed,fun _ _ => trivial,fun _ _ _ _ => trivial⟩
  have brought : ∀ c, Editor.Brings event c → True := fun _ _ => trivial
  obtain ⟨o,editor,state,handled,good⟩ :=
    Editor.handleGood trivial trivial sound anything (m.state.1,m.state.2.takeAbort.1) brought
  exact ⟨o,editor,state,handled,good.handed⟩

theorem readOpens (r : LineReader) (s : Surroundings (κ × Signals)) (state : κ × Signals) (polls : List Poll) :
    r.readLine s state polls =
      loop s (opening r state).reader (opening r state).state (opening r state).since polls := rfl

/- A reading seen from outside: the i-th question finds the reader of the i-th moment, which is the one
that the reading holds when the events end there. -/
theorem screenFollowsText {r : LineReader} {t : Terminal} (ready : r.Ready) (start : t.AtStart)
    (supplies : Editor.Supplies Plain s) (state : κ × Signals) (polls : List Poll)
    (brought : ∀ event, .event event ∈ polls → ∀ c, Editor.Brings event c → Plain c)
    (within : ∀ m ∈ (opening r state).trail s polls, m.reader.Within) :
    (∀ i < (r.readLine s state polls).frames.length, ∃ m,
      ((opening r state).trail s polls)[i]? = some m ∧
      (r.readLine s state (polls.take i)).outcome = .error .outOfEvents ∧
      (r.readLine s state (polls.take i)).reader = m.reader ∧
      m.reader = { r with editor := m.reader.editor, display := m.reader.display } ∧
      m.written = ((r.readLine s state polls).frames.take (i + 1)).flatten ∧
      m.reader.Agrees (m.top t) (m.screen t)) ∧
    (r.readLine s state polls).outcome ≠ .error .offset ∧
    ∀ o, (r.readLine s state polls).outcome = .ok o → ∃ m,
      ((opening r state).trail s polls).getLast? = some m ∧
      (∀ l, o = .line l → l = m.reader.editor.buffer.text) ∧
      m.reader.Agrees (m.top t) (m.screen t) ∧
      t.feed r.width ((r.readLine s state polls).frames.flatten ++ (r.readLine s state polls).out) =
        { m.screen t with
          cursor := ⟨m.top t + (m.reader.position m.reader.editor.buffer.text).row + 1,0⟩ } := by
  obtain ⟨others,shape⟩ := trailHead s (opening r state) polls
  have first : opening r state ∈ (opening r state).trail s polls := by rw [shape]; exact List.mem_cons_self
  have follows := trailFollows (openingFollows ready start state (within _ first)) supplies brought within
  have hands : ∀ m ∈ (opening r state).trail s polls, m.Hands s :=
    fun m inside => handsPlaced (follows m inside).ready.sound.placed
  have keeps := trailKeeps s (opening r state) polls
  have whole : (opening r state).written = [] ++ (opening r state).since := rfl
  obtain ⟨asked,last,final,total,below,line⟩ := loopTrail hands whole
  refine ⟨?_,total,?_⟩
  · intro i inside
    obtain ⟨m,there,outcome,reader,whole⟩ := asked i inside
    have member := List.mem_of_getElem? there
    exact ⟨m,there,outcome,reader,keeps m member,whole,(follows m member).agrees⟩
  · intro o ok
    have member := List.mem_of_getLast? final
    obtain ⟨ready',agrees⟩ := follows last member
    have left := (leaveAgrees ready' agrees (within last member)).2
    refine ⟨last,final,fun l same => line l (by rw [← same]; exact ok),agrees,?_⟩
    have whole := below o ok
    have width : last.reader.width = r.width := by rw [keeps last member]; rfl
    rw [List.nil_append] at whole
    rw [← left,width,screen,width,← Terminal.feedAppend,← whole]
    rfl

def slim : LineReader := { prompt := ['>',' '], highlighter := .plain, width := 5 }

def helped : Surroundings (Unit × Signals) :=
  ⟨.constant [],[],⟨fun k _ _ => ([['d','o'],['f','o','r']],k)⟩,true⟩

def used : Terminal := ⟨⟨3,0⟩,false,fun _ => .glyph 'x',.ground⟩

theorem slimReady : slim.Ready :=
  have plain : ∀ c ∈ Marked.visible slim.prompt, Plain c := plainAll (by decide)
  ⟨by decide,by decide,nofun,Marked.plainDresses plain,plain,fun _ shown => Marked.plainDresses shown,
    Buffer.emptyPlaced,nofun,nofun⟩

theorem usedStart : used.AtStart := ⟨⟨rfl,rfl⟩,rfl⟩

theorem helpedSupplies : Editor.Supplies Plain helped :=
  have plain : ∀ t ∈ [['d','o'],['f','o','r']], ∀ c ∈ t, Plain c := by
    intro t inside
    rcases List.mem_cons.mp inside with rfl | later
    · exact plainAll (by decide)
    · rw [List.mem_singleton.mp later]
      exact plainAll (by decide)
  ⟨nofun,fun _ _ _ => plain⟩

def typing : List Poll :=
  [.event (.paste ['漢','字','漢']),.event (.key { code := .tab } .press),.signal 2,
    .event (.key { code := .left } .press),.event (.key { code := .enter } .press)]

theorem typingBrings : ∀ event, .event event ∈ typing → ∀ c, Editor.Brings event c → Plain c := by
  have wide : ∀ c ∈ ['漢','字','漢'], Plain c := plainAll (by decide +kernel)
  intro event inside c brings
  simp only [typing,List.mem_cons,List.not_mem_nil,Poll.event.injEq,reduceCtorEq,false_or,or_false] at inside
  rcases inside with rfl | rfl | rfl | rfl
  · exact wide c brings.1
  · exact nomatch brings.2.1
  · exact nomatch brings.2.1
  · exact nomatch brings.2.1

theorem screenFollowsTyping : slim.Ready ∧ used.AtStart ∧ Editor.Supplies Plain helped ∧
    (∀ m ∈ (opening slim ((),{})).trail helped typing, m.reader.Within) ∧
    2 < (slim.readLine helped ((),{}) typing).frames.length ∧
    (∃ m, ((opening slim ((),{})).trail helped typing)[2]? = some m ∧
      m.reader.Agrees (m.top used) (m.screen used)) ∧
    (slim.readLine helped ((),{}) typing).outcome = .ok (.line ['漢','字','漢']) ∧
    ∃ m, ((opening slim ((),{})).trail helped typing).getLast? = some m ∧
      m.reader.editor.buffer.text = ['漢','字','漢'] ∧ m.reader.Agrees (m.top used) (m.screen used) := by
  have within : ∀ m ∈ (opening slim ((),{})).trail helped typing, m.reader.Within := by decide +kernel
  have asks : 2 < (slim.readLine helped ((),{}) typing).frames.length := by decide +kernel
  have handed : (slim.readLine helped ((),{}) typing).outcome = .ok (.line ['漢','字','漢']) :=
    takenOutcome (by decide +kernel)
  obtain ⟨asked,_,ended⟩ :=
    screenFollowsText slimReady usedStart helpedSupplies ((),{}) typing typingBrings within
  obtain ⟨m,there,_,_,_,_,agrees⟩ := asked 2 asks
  obtain ⟨m',last,line,agrees',_⟩ := ended _ handed
  exact ⟨slimReady,usedStart,helpedSupplies,within,asks,⟨m,there,agrees⟩,handed,m',last,
    (line _ rfl).symm,agrees'⟩

theorem agreesOnce {r : LineReader} {t : Terminal} {top top' : Int} (agrees : r.Agrees top t)
    (agrees' : r.Agrees top' t) : top = top' := by
  have rows := congrArg Position.row (agrees.cursor.symm.trans agrees'.cursor)
  simp only at rows
  omega

theorem nextLands {t : Terminal} {m : Moment κ} {event : Event} {before after : Text} {recalled : Recall}
    (follows : Follows t m) (going : ¬ m.Stops) {state : κ × Signals}
    (handled : m.reader.handle s (m.state.1,m.state.2.takeAbort.1) event =
      some (.changed,⟨.parts before after,recalled⟩,state))
    (sound : Editor.Sound Plain ⟨.parts before after,recalled⟩)
    (far : (m.reader.position (before ++ after)).row - (m.reader.position before).row ≤ Escape.limit) :
    ∃ m', m.next s (.event event) = some m' ∧ m'.state = state ∧ m'.top t = m.top t ∧ m'.reader.Ready ∧
      m'.reader = painted { m.reader with editor := ⟨.parts before after,recalled⟩ } before after ∧
      m'.reader.Agrees (m.top t + m.reader.display.current.row +
        Terminal.reached (0 - m.reader.display.current.row)) (m'.screen t) := by
  obtain ⟨ready,agrees⟩ := follows
  have ready' := soundReady ready sound
  obtain ⟨out,drawn,lands⟩ := redrawLands ready' agrees.idle agrees.cursor rfl
  have step : m.next s (.event event) = some { m with
      reader := painted { m.reader with editor := ⟨.parts before after,recalled⟩ } before after
      state, since := m.since ++ out } := by
    simp only [next,if_neg going,Moment.after,handled,drawn]
  refine ⟨_,step,rfl,rfl,paintedReady ready' before after,rfl,?_⟩
  show Agrees _ _ (t.feed m.reader.width (m.above ++ (m.since ++ out)))
  rw [← List.append_assoc,Terminal.feedAppend]
  exact lands far

theorem goingStill {m m' : Moment κ} (going : ¬ m.Stops)
    (same : m'.state = (m.state.1,m.state.2.takeAbort.1)) : ¬ m'.Stops := by
  rintro (dead | aborted)
  · rw [same] at dead
    exact going (.inl dead)
  · rw [same] at aborted
    contradiction

/- From below the limit the prompt does not come home: a resize paints it again some rows lower. -/
theorem resizeSinks {t : Terminal} {m : Moment κ} (follows : Follows t m) (going : ¬ m.Stops)
    (deep : Escape.limit < m.reader.display.current.row)
    (far : m.reader.display.finish.row - m.reader.display.current.row ≤ Escape.limit) (width height : Nat) :
    ∃ m', m.next s (.event (.resize width height)) = some m' ∧ ¬ m'.Stops ∧
      ¬ m'.reader.Agrees (m'.top t) (m'.screen t) := by
  obtain ⟨before,after,parted,current⟩ := follows.agrees.point
  have text : m.reader.editor.buffer.text = before ++ after := by rw [parted]; rfl
  have same : m.reader.editor = ⟨.parts before after,m.reader.editor.recalled⟩ := by rw [← parted]
  have sound := follows.ready.sound
  have finish := follows.agrees.finish
  rw [same] at sound
  rw [text] at finish
  rw [current,finish] at far
  have resized : m.reader.handle s (m.state.1,m.state.2.takeAbort.1) (.resize width height) =
      some (.changed,⟨.parts before after,m.reader.editor.recalled⟩,(m.state.1,m.state.2.takeAbort.1)) := by
    rw [← same]
    rfl
  obtain ⟨m',step,state,top,_,_,lands⟩ := nextLands follows going resized sound far
  -- the cursor would be in two rows at once
  refine ⟨m',step,goingStill going state,fun agrees => ?_⟩
  have lower := agreesOnce agrees lands
  rw [top] at lower
  unfold Terminal.reached Terminal.clipped at lower
  omega

theorem pasteReaches {t : Terminal} {m : Moment κ} (follows : Follows t m) (within : m.reader.Within)
    (going : ¬ m.Stops) (empty : m.reader.editor = {}) (n : Nat) :
    ∃ m', m.next s (.event (.paste (List.replicate (n + 1) '\n'))) = some m' ∧ Follows t m' ∧ ¬ m'.Stops ∧
      n < m'.reader.display.current.row ∧ m'.reader.display.finish = m'.reader.display.current := by
  have low := currentLow follows.ready follows.agrees
  have inserted := Buffer.insertParts [] [] (List.replicate (n + 1) '\n')
  have some' : (List.replicate (n + 1) '\n').isEmpty = false := rfl
  have pasted : m.reader.handle s (m.state.1,m.state.2.takeAbort.1) (.paste (List.replicate (n + 1) '\n')) =
      some (.changed,⟨.parts (List.replicate (n + 1) '\n') [],{}⟩,(m.state.1,m.state.2.takeAbort.1)) := by
    simp only [handle,Editor.paste,Editor.normalizeNewlines,some',Bool.false_eq_true,if_false,Editor.put,empty]
    exact congrArg (Option.map _) (congrArg (Option.map _) inserted)
  have nothing : ∀ c ∈ ([] : Text), Plain c := fun _ inside => absurd inside List.not_mem_nil
  have sound : Editor.Sound Plain ⟨.parts (List.replicate (n + 1) '\n') [],{}⟩ :=
    Editor.soundParts (fun c inside => .inl (List.eq_of_mem_replicate inside)) nothing
      fun _ same => absurd same.symm (Option.some_ne_none _)
  obtain ⟨m',step,state,top,ready,reader,lands⟩ := nextLands follows going pasted sound
    (by rw [List.append_nil,Int.sub_self]; decide)
  have home : m.top t + m.reader.display.current.row + Terminal.reached (0 - m.reader.display.current.row) =
      m'.top t := by
    rw [top,Terminal.reachedWithin (by have near := within.1; omega) (by omega)]
    omega
  rw [home] at lands
  refine ⟨m',step,⟨ready,lands⟩,goingStill going state,?_,?_⟩
  · have lead := (positionInside follows.ready nothing).1
    rw [position,List.append_nil] at lead
    rw [reader]
    show (n : Int) <
      (Layout.walk m.reader.width _ (Marked.visible m.reader.prompt ++ List.replicate (n + 1) '\n')).row
    rw [Layout.walkAppend,Layout.walkNewlines]
    omega
  · rw [reader]
    exact congrArg (position _) (List.append_nil _)

def plunge (n : Nat) : List Poll := [.event (.paste (List.replicate (n + 1) '\n')),.event (.resize 80 24)]

theorem plungeBrings (n : Nat) : ∀ event, .event event ∈ plunge n → ∀ c, Editor.Brings event c → Plain c := by
  intro event inside c brings
  rcases List.mem_cons.mp inside with same | later
  · obtain rfl := Poll.event.inj same
    exact .inl (List.eq_of_mem_replicate brings.1)
  · obtain rfl := Poll.event.inj (List.mem_singleton.mp later)
    exact brings.elim

theorem plungeSinks {r : LineReader} {t : Terminal} (ready : r.Ready) (start : t.AtStart)
    (empty : r.editor = {}) {state : κ × Signals} (going : ¬ (opening r state).Stops)
    (within : (opening r state).reader.Within) {n : Nat} (tall : Escape.limit ≤ n) :
    2 < (r.readLine s state (plunge n)).frames.length ∧
      ∃ m, ((opening r state).trail s (plunge n))[2]? = some m ∧
        ¬ m.reader.Agrees (m.top t) (m.screen t) := by
  have first := openingFollows ready start state within
  obtain ⟨m₁,step,follows,going₁,deep,flat⟩ := pasteReaches (s := s) first within going empty n
  obtain ⟨m₂,step',going₂,sinks⟩ := resizeSinks (s := s) follows going₁ (by omega)
    (by rw [flat,Int.sub_self]; decide) 80 24
  obtain ⟨out,_,turn⟩ := loopNext step (opening r state).since [.event (.resize 80 24)]
  obtain ⟨out',_,turn'⟩ := loopNext step' out []
  obtain ⟨_,_,last⟩ := loopWaits s going₂ out'
  refine ⟨?_,m₂,?_,sinks⟩
  · rw [readOpens,plunge,turn,turn']
    simp only [loop.framed,last]
    exact Nat.le_refl 3
  · simp only [plunge,trail,step,step']
    rfl

theorem screenSinks : slim.Ready ∧ used.AtStart ∧ Editor.Supplies Plain helped ∧
    (∀ event, .event event ∈ plunge 65535 → ∀ c, Editor.Brings event c → Plain c) ∧
    2 < (slim.readLine helped ((),{}) (plunge 65535)).frames.length ∧
    ∃ m, ((opening slim ((),{})).trail helped (plunge 65535))[2]? = some m ∧
      ¬ m.reader.Agrees (m.top used) (m.screen used) :=
  ⟨slimReady,usedStart,helpedSupplies,plungeBrings 65535,
    plungeSinks slimReady usedStart rfl (by decide) (by decide) (Nat.le_refl 65535)⟩

end ScriptConsole.LineReader.Moment
