import ScriptConsole.Proofs.Edit.Ending
import ScriptConsole.Proofs.Edit.Safety
import ScriptConsole.Proofs.Edit.Trail
import ScriptConsole.Proofs.Screen.Anchoring

/-! Readings one after another, by one reader. Text, point and display of a reading are gone when the
next one begins. The place in the history is gone as well, unless the reading ended with the end of the
input: then the next reading walks on from there. -/
namespace ScriptConsole.LineReader
variable {κ : Type}

structure Call (κ : Type) where
  surroundings : Surroundings (κ × Signals)
  state : κ × Signals
  polls : List Poll

def Call.on (call : Call κ) (r : LineReader) : ReadResult κ :=
  r.readLine call.surroundings call.state call.polls

def readings (r : LineReader) : List (Call κ) → List (ReadResult κ)
  | [] => []
  | call :: rest => call.on r :: (call.on r).reader.readings rest

structure New (r : LineReader) : Prop where
  editor : r.editor = {}
  display : r.display = {}

def recalling (r : LineReader) (recalled : Recall) : LineReader := { r with editor := { recalled } }

/-! ## The display -/

def Painted (r : LineReader) : Prop := Display.Unresized r.display.width r.width

theorem redrawAnew {r : LineReader} (anchored : r.display.Anchored) (painted : r.Painted) :
    r.redraw = redraw { r with display := {} } := by
  have still : r.display.homing r.prompt (r.highlighter.highlight r.editor.buffer.text true) r.width = [] := by
    rw [Display.homing,Display.anchoredResync anchored,if_pos (show Display.Unresized _ _ from painted)]
    rfl
  unfold redraw
  simp only []
  rw [Display.redisplayParts,still]
  rfl

theorem readAnew {r : LineReader} (painted : r.Painted) (s : Surroundings (κ × Signals)) (state : κ × Signals)
    (polls : List Poll) : r.readLine s state polls = readLine { r with display := {} } s state polls := by
  have anew := redrawAnew (r := { r with display := r.display.reset }) ⟨rfl,rfl⟩ painted
  unfold readLine
  rw [anew]
  rfl

/-! ## During a reading -/

structure Steady (fresh r : LineReader) : Prop where
  own : r = { fresh with editor := r.editor, display := r.display }
  painted : r.Painted
  firm : r.editor.Firm
  proper : r.editor.recalled.Proper

structure Closes (fresh : LineReader) (o : ReadOutcome) (r : LineReader) : Prop where
  own : r = { fresh with editor := { recalled := r.editor.recalled }, display := r.display }
  painted : r.Painted
  proper : r.editor.recalled.Proper
  unwalked : o ≠ .endOfFile → r.editor.recalled = {}

section
variable {fresh r : LineReader} {s : Surroundings (κ × Signals)}

theorem Steady.edited (steady : Steady fresh r) {e : Editor} (firm : e.Firm) (proper : e.recalled.Proper) :
    Steady fresh { r with editor := e } where
  own := by rw [steady.own]
  painted := steady.painted
  firm := firm
  proper := proper

theorem Steady.shown (steady : Steady fresh r) (step : Display.Step)
    (width : step.width? = none ∨ step.width? = some r.width) :
    Steady fresh { r with display := step.perform r.display } where
  own := by rw [steady.own]
  painted := by
    unfold Painted
    rw [Display.performWidth]
    rcases width with none | here
    · rw [none]
      exact steady.painted
    · rw [here]
      exact fun _ same => (Option.some.inj same).symm
  firm := steady.firm
  proper := steady.proper

theorem Steady.redraws (steady : Steady fresh r) : Steady fresh r.redraw.1 :=
  steady.shown (.redisplay r.prompt (r.highlighter.highlight r.editor.buffer.text true) r.editor.buffer.point
    r.width) (.inr rfl)

theorem Steady.leaves (steady : Steady fresh r) : Steady fresh r.leave.1 := steady.shown .leave (.inl rfl)

theorem Steady.closes (steady : Steady fresh r) {o : ReadOutcome} (empty : r.editor.buffer = {})
    (unwalked : o ≠ .endOfFile → r.editor.recalled = {}) : Closes fresh o r.leave.1 where
  own := by
    have kept : r.leave.1.editor = { recalled := r.leave.1.editor.recalled } :=
      congrArg (Editor.mk · r.editor.recalled) empty
    rw [← kept]
    exact steady.leaves.own
  painted := steady.leaves.painted
  proper := steady.proper
  unwalked := unwalked

theorem Steady.abandons (steady : Steady fresh r) (o : ReadOutcome) : Closes fresh o r.clear.leave.1 :=
  (steady.edited Editor.firmInitial fun _ => rfl).closes rfl fun _ => rfl

theorem Steady.handles (steady : Steady fresh r) {state state' : κ × Signals} {event : Event} {o : Outcome}
    {e : Editor} (h : r.handle s state event = some (o,e,state')) : e.Firm := by
  obtain ⟨o',e',state'',handled,good⟩ := Editor.handleGood trivial trivial steady.firm (Editor.suppliesAny s)
    state fun _ _ => trivial
  rw [h] at handled
  cases handled
  exact good.sound

theorem stopCloses (steady : Steady fresh r) {state : κ × Signals} (pending : Text) (polls : List Poll)
    (stops : state.2.pendingTermination.isSome = true ∨ state.2.abort = true) (o : ReadOutcome) :
    Closes fresh o (loop s r state pending polls).reader := by
  rcases Moment.loopStops s r stops pending polls with ⟨signal,same⟩ | ⟨_,same⟩
  · rw [same]
    exact steady.abandons o
  · rw [same]
    exact steady.abandons o

theorem loopCloses (steady : Steady fresh r) (state : κ × Signals) (pending : Text) (polls : List Poll)
    {o : ReadOutcome} (ended : (loop s r state pending polls).outcome = .ok o) :
    Closes fresh o (loop s r state pending polls).reader := by
  -- on the events: each ends the reading or leaves it to a reader as steady as the one before
  induction polls generalizing r state pending with
  | nil =>
    by_cases stops : state.2.pendingTermination.isSome = true ∨ state.2.abort = true
    · exact stopCloses steady pending [] stops o
    · rw [Moment.loopOut stops] at ended
      contradiction
  | cons poll rest ih =>
    by_cases stops : state.2.pendingTermination.isSome = true ∨ state.2.abort = true
    · exact stopCloses steady pending (poll :: rest) stops o
    · obtain ⟨k,signals⟩ := state
      have goesOn {r' : LineReader} (steady' : Steady fresh r') (state : κ × Signals) (out : Text)
          (later : (loop.framed pending (loop s r' state out rest)).outcome = .ok o) :
          Closes fresh o (loop.framed pending (loop s r' state out rest)).reader := ih steady' state out later
      cases poll with
      | nothing =>
        rw [Moment.loopNothing stops] at ended ⊢
        exact goesOn steady _ _ ended
      | signal n =>
        rw [Moment.loopSignal stops] at ended ⊢
        exact goesOn steady _ _ ended
      | event event =>
        rcases handled : r.handle s (k,signals.takeAbort.1) event with _ | ⟨outcome,editor,state⟩
        · rw [Moment.loopLost stops pending rest handled] at ended
          contradiction
        · have firm := steady.handles handled
          rw [Moment.loopHandles stops pending rest handled] at ended ⊢
          cases (Editor.handleLeads handled).1 with
          | submits =>
            exact (steady.edited firm fun _ => rfl).closes rfl fun _ => rfl
          | ends empty =>
            cases ended
            exact (steady.edited firm steady.proper).closes (Buffer.placedEmpty firm.placed empty) (absurd rfl)
          | aborts => exact steady.abandons o
          | onward goes =>
            have steady' := steady.edited firm (goes.recalled.proper steady.proper)
            rcases goes.on with rfl | rfl | ⟨l,rfl⟩
            · exact goesOn steady' _ _ ended
            · exact goesOn steady'.redraws _ _ ended
            · exact goesOn steady'.leaves.redraws _ _ ended

end

/-! ## One reading after another -/

theorem Closes.steady {fresh r : LineReader} {o : ReadOutcome} (closes : Closes fresh o r) :
    Steady fresh r where
  own := by rw [closes.own]
  painted := closes.painted
  firm := by
    rw [closes.own]
    exact ⟨Buffer.emptyPlaced,fun _ _ => trivial,fun _ _ _ _ => trivial⟩
  proper := closes.proper

theorem callCloses {fresh r : LineReader} (steady : Steady fresh r) (call : Call κ) {o : ReadOutcome}
    (ended : (call.on r).outcome = .ok o) : Closes fresh o (call.on r).reader :=
  loopCloses (steady.shown .reset (.inl rfl)).redraws call.state _ call.polls ended

theorem readingsClose {fresh r : LineReader} (steady : Steady fresh r) {calls : List (Call κ)}
    (ended : ∀ result ∈ r.readings calls, ∃ o, result.outcome = .ok o) :
    ∀ result ∈ r.readings calls, ∃ o, result.outcome = .ok o ∧ Closes fresh o result.reader := by
  induction calls generalizing r with
  | nil =>
    rw [readings]
    exact fun _ inside => absurd inside List.not_mem_nil
  | cons call rest ih =>
    rw [readings] at ended ⊢
    obtain ⟨o,ok⟩ := ended _ List.mem_cons_self
    have closes := callCloses steady call ok
    intro result inside
    rcases List.mem_cons.mp inside with rfl | later
    · exact ⟨o,ok,closes⟩
    · exact ih closes.steady (fun result inside => ended result (List.mem_cons_of_mem _ inside)) result later

def Leaks (result : ReadResult κ) : Prop :=
  result.outcome = .ok .endOfFile ∧ result.reader.editor.recalled ≠ {}

theorem closesTight {fresh : LineReader} {o : ReadOutcome} {result : ReadResult κ} (ok : result.outcome = .ok o)
    (closes : Closes fresh o result.reader) : ¬ Leaks result ↔ result.reader.editor.recalled = {} := by
  refine ⟨fun tight => ?_,fun unwalked leaks => leaks.2 unwalked⟩
  by_cases ends : o = .endOfFile
  · subst ends
    exact Classical.byContradiction fun walked => tight ⟨ok,walked⟩
  · exact closes.unwalked ends

theorem closesAnew {fresh r : LineReader} (new : fresh.New) {o : ReadOutcome} (closes : Closes fresh o r)
    (next : Call κ) : next.on r = next.on (fresh.recalling r.editor.recalled) := by
  have clean : fresh.recalling r.editor.recalled = { r with display := {} } := by
    rw [closes.own,recalling,new.display]
  rw [Call.on,readAnew closes.painted,clean]
  rfl

theorem recallingNothing {fresh : LineReader} (new : fresh.New) : fresh.recalling {} = fresh := by
  rw [recalling,new.editor.symm]

theorem newSteady {fresh : LineReader} (new : fresh.New) : Steady fresh fresh where
  own := rfl
  painted := by
    unfold Painted
    rw [new.display]
    exact nofun
  firm := by rw [new.editor]; exact Editor.firmInitial
  proper := by rw [new.editor]; exact fun _ => rfl

theorem readingsMap {fresh r : LineReader} (new : fresh.New) (steady : Steady fresh r)
    (same : ∀ next : Call κ, next.on r = next.on fresh) {calls : List (Call κ)}
    (ended : ∀ result ∈ r.readings calls, ∃ o, result.outcome = .ok o)
    (apart : ∀ result ∈ (r.readings calls).dropLast, ¬ Leaks result) :
    r.readings calls = calls.map (·.on fresh) := by
  induction calls generalizing r with
  | nil => rfl
  | cons call rest ih =>
    rw [readings] at ended apart ⊢
    rw [List.map_cons,same call]
    cases rest with
    | nil => rfl
    | cons second rest =>
      obtain ⟨o,ok⟩ := ended _ List.mem_cons_self
      have closes := callCloses steady call ok
      rw [readings,List.dropLast_cons_cons,← readings] at apart
      have unwalked : (call.on r).reader.editor.recalled = {} :=
        (closesTight ok closes).mp (apart _ List.mem_cons_self)
      have anew (next : Call κ) : next.on (call.on r).reader = next.on fresh := by
        rw [closesAnew new closes,unwalked,recallingNothing new]
      rw [← same call]
      exact congrArg (call.on r :: ·) (ih closes.steady anew
        (fun result inside => ended result (List.mem_cons_of_mem _ inside))
        fun result inside => apart result (List.mem_cons_of_mem _ inside))

section
variable {r : LineReader} {s : Surroundings (κ × Signals)} {k : κ} {state : κ × Signals} {event : Event}
  {e : Editor}

theorem turnGoesOn {o : Outcome} (handled : r.handle s (k,{}) event = some (o,e,state))
    (on : o = .ignored ∨ o = .changed) (pending : Text) (rest : List Poll) : ∃ r' out, r'.editor = e ∧
      (loop s r (k,{}) pending (.event event :: rest)).outcome = (loop s r' state out rest).outcome := by
  rw [Moment.loopHandles (by decide) pending rest handled]
  rcases on with rfl | rfl
  · exact ⟨{ r with editor := e },[],rfl,rfl⟩
  · exact ⟨({ r with editor := e }.redraw).1,({ r with editor := e }.redraw).2,rfl,rfl⟩

theorem turnSubmits {t : Text} (handled : r.handle s (k,{}) event = some (.submit t,e,state)) (pending : Text)
    (rest : List Poll) : (loop s r (k,{}) pending (.event event :: rest)).outcome = .ok (.line t) := by
  rw [Moment.loopHandles (by decide) pending rest handled]

end

def pressing (code : KeyCode) : Poll := .event (.key { code } .press)

def stepBack (k : κ) (n : Nat) : Call κ where
  surroundings := ⟨.constant [],List.replicate (n + 1) [] ++ [['b']],⟨fun k _ _ => ([],k)⟩,true⟩
  state := (k,{})
  polls := [pressing .up,pressing .enter]

theorem stepBackTakes {r : LineReader} {o : Outcome} {e : Editor} (k : κ) (n : Nat)
    (up : r.editor.lineUp (stepBack k n).surroundings.entries = some (o,e)) (on : o = .ignored ∨ o = .changed)
    (single : e.buffer.text.contains '\n' = false) :
    ((stepBack k n).on r).outcome = .ok (.line e.buffer.text) := by
  have pressed : handle ({ r with display := r.display.reset }.redraw).1 (stepBack k n).surroundings (k,{})
      (.key { code := .up } .press) = some (o,e,(k,{})) := by
    show (Editor.lineUp r.editor _).map _ = _
    rw [up]
    rfl
  obtain ⟨r',out,rfl,later⟩ := turnGoesOn pressed on ({ r with display := r.display.reset }.redraw).2
    [pressing .enter]
  have entered : r'.handle (stepBack k n).surroundings (k,{}) (.key { code := .enter } .press) =
      some (.submit r'.editor.buffer.text,{},(k,{})) := by
    show (Editor.enter r'.editor _).map _ = _
    simp only [Editor.enter,single,stepBack]
    split <;> rfl
  exact later.trans (turnSubmits entered out [])

theorem stepBackApart {fresh : LineReader} (new : fresh.New) (k : κ) {recalled : Recall} {n : Nat}
    (index : recalled.index = some n) :
    ((stepBack k n).on (fresh.recalling recalled)).outcome = .ok (.line []) ∧
      ((stepBack k n).on fresh).outcome = .ok (.line ['b']) := by
  have shows {recalled r' : Recall} {t : Text} (short : t = [] ∨ t = ['b'])
      (walk : recalled.previous (stepBack k n).surroundings.entries [] = (some t,r')) :
      Editor.lineUp { recalled } (stepBack k n).surroundings.entries = some (.changed,⟨.replace t 0,r'⟩) := by
    unfold Editor.lineUp
    simp only [walk]
    rcases short with rfl | rfl <;> rfl
  constructor
  · cases n with
    | zero =>
      have up : Editor.lineUp { recalled } (stepBack k 0).surroundings.entries =
          some (.ignored,{ recalled }) := by
        unfold Editor.lineUp
        simp only [Recall.previous,index]
        rfl
      exact stepBackTakes (r := fresh.recalling recalled) k 0 up (.inl rfl) rfl
    | succ n =>
      have walk : recalled.previous (stepBack k (n + 1)).surroundings.entries [] =
          (some [],⟨some n,recalled.aside⟩) := by
        have inside : n < n + 2 := by omega
        simp [stepBack,Recall.previous,index,List.getElem?_append,inside]
      exact stepBackTakes (r := fresh.recalling recalled) k (n + 1) (shows (.inl rfl) walk) (.inr rfl) rfl
  · have walk : Recall.previous {} (stepBack k n).surroundings.entries [] =
        (some ['b'],⟨some (n + 1),some []⟩) := by
      simp [stepBack,Recall.previous]
    have start : fresh.editor = { recalled := {} } := new.editor
    exact stepBackTakes k n (by rw [start]; exact shows (.inr rfl) walk) (.inr rfl) rfl

/- Reading after reading comes to what each call comes to with a new reader, as long as none of the
readings before has ended the input on its way through the history. One that has is seen in the next. -/
theorem readingsApart {fresh : LineReader} (new : fresh.New) {calls : List (Call κ)}
    (ended : ∀ result ∈ fresh.readings calls, ∃ o, result.outcome = .ok o) :
    ((∀ result ∈ (fresh.readings calls).dropLast, ¬ Leaks result) →
      fresh.readings calls = calls.map (·.on fresh)) ∧
    ∀ result ∈ fresh.readings calls,
      (∀ next : Call κ, next.on result.reader = next.on (fresh.recalling result.reader.editor.recalled)) ∧
      ((∀ next : Call κ, (next.on result.reader).outcome = (next.on fresh).outcome) ↔ ¬ Leaks result) := by
  refine ⟨readingsMap new (newSteady new) (fun _ => rfl) ended,fun result inside => ?_⟩
  obtain ⟨o,ok,closes⟩ := readingsClose (newSteady new) ended result inside
  have anew (next : Call κ) := closesAnew new closes next
  refine ⟨anew,fun same leaks => ?_,fun apart next => ?_⟩
  · cases walked : result.reader.editor.recalled.index with
    | none => exact leaks.2 (closes.proper walked)
    | some n =>
      obtain ⟨left,first⟩ := stepBackApart new result.state.1 walked
      have agrees := same (stepBack result.state.1 n)
      rw [anew,left,first] at agrees
      cases agrees
  · rw [anew,(closesTight ok closes).mp apart,recallingNothing new]

theorem outcomesTaken {results : List (ReadResult κ)} {os : List ReadOutcome}
    (taken : results.map (·.outcome.toOption) = os.map some) :
    ∀ result ∈ results, ∃ o, result.outcome = .ok o := by
  intro result inside
  have found : result.outcome.toOption ∈ os.map some := by
    rw [← taken]
    exact List.mem_map_of_mem inside
  obtain ⟨o,_,same⟩ := List.mem_map.mp found
  exact ⟨o,takenOutcome same.symm⟩

def bare : LineReader := { prompt := ['>',' '], highlighter := .plain, width := 20 }

def held (c : Char) : Poll := .event (.key { code := .char c, control := true } .press)

def among (polls : List Poll) : Call Unit where
  surroundings := ⟨.constant [],[['a'],['b']],⟨fun k _ _ => ([],k)⟩,false⟩
  state := ((),{})
  polls

def threeTimes : List (Call Unit) :=
  [among [pressing .up,held 'c'],among [held 'd'],among [pressing .up,pressing .enter]]

theorem readingsApartThreeTimes : bare.New ∧
    (bare.readings threeTimes).map (·.outcome.toOption) =
      [some .interrupted,some .endOfFile,some (.line ['b'])] ∧
    bare.readings threeTimes = threeTimes.map (·.on bare) := by
  have new : bare.New := ⟨rfl,rfl⟩
  have taken : (bare.readings threeTimes).map (·.outcome.toOption) =
      [.interrupted,.endOfFile,.line ['b']].map some := by decide +kernel
  have unwalked : ∀ result ∈ bare.readings threeTimes, result.reader.editor.recalled = {} := by decide +kernel
  exact ⟨new,taken,(readingsApart new (outcomesTaken taken)).1 fun result inside leaks =>
    leaks.2 (unwalked result (List.dropLast_subset _ inside))⟩

def walkedOff : List (Call Unit) :=
  [among [pressing .up,held 'k',held 'd'],among [pressing .up,pressing .enter]]

theorem readingsWalkOn : ¬ ∀ fresh : LineReader, fresh.New → ∀ calls : List (Call Unit),
    (∀ result ∈ fresh.readings calls, ∃ o, result.outcome = .ok o) →
      fresh.readings calls = calls.map (·.on fresh) := by
  intro always
  have taken : (bare.readings walkedOff).map (·.outcome.toOption) =
      [.endOfFile,.line ['a']].map some := by decide +kernel
  have alone : (walkedOff.map (·.on bare)).map (·.outcome.toOption) =
      [.endOfFile,.line ['b']].map some := by decide +kernel
  have same := congrArg (List.map (·.outcome.toOption)) (always bare ⟨rfl,rfl⟩ walkedOff (outcomesTaken taken))
  have apart : [ReadOutcome.endOfFile,.line ['a']].map some ≠ [.endOfFile,.line ['b']].map some := by decide
  exact apart (taken.symm.trans (same.trans alone))

end ScriptConsole.LineReader
