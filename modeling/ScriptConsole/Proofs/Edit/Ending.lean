import ScriptConsole.Edit.Reader

/-! What one key leads to. It submits the text and leaves a new editor, which only Enter does, ends the
input of an empty one, abandons the line, or goes on; and then the walk through the history has moved by
one step at most. The completer is asked once or not at all. -/
namespace ScriptConsole

namespace Recall

inductive Goes (entries : List Text) (r : Recall) : Recall → Prop
  | stays : Goes entries r r
  | previous (current : Text) : Goes entries r (r.previous entries current).2
  | next : Goes entries r (r.next entries).2

def Proper (r : Recall) : Prop := r.index = none → r = {}

theorem Goes.proper {entries : List Text} {r r' : Recall} (goes : Goes entries r r') (proper : r.Proper) :
    r'.Proper := by
  cases goes with
  | stays => exact proper
  | previous current =>
    unfold Recall.previous
    split
    · exact proper
    · exact nofun
  | next =>
    unfold Recall.next
    split
    · exact proper
    · split
      · exact fun _ => rfl
      · exact nofun

end Recall

namespace Editor
variable {κ : Type} {entries : List Text} {e e' : Editor} {o : Outcome}

/-! ## The keys for Enter -/

def Key.Enters (key : Key) : Prop :=
  key.code = .enter ∨ key.control = true ∧ ∃ c ∈ ['j','J','m','M'], key.code = .char c

theorem lowerCases {c d : Char} (lower : c.toLower = d) : c = d ∨ c.val + 32 = d.val := by
  unfold Char.toLower at lower
  split at lower
  · exact .inr (by rw [← lower]; rfl)
  · exact .inl lower

theorem lowerEnters {c : Char} (lower : c.toLower = 'j' ∨ c.toLower = 'm') : c ∈ ['j','J','m','M'] := by
  have upper {d u : Char} (shift : c.val + 32 = d.val) (same : d.val = u.val + 32) : c = u :=
    Char.ext ((UInt32.add_left_inj 32).mp (shift.trans same))
  rcases lower with j | m
  · rcases lowerCases j with rfl | shift
    · simp
    · rw [upper (u := 'J') shift rfl]; simp
  · rcases lowerCases m with rfl | shift
    · simp
    · rw [upper (u := 'M') shift rfl]; simp

/-! ## The ways on and out -/

def GoesOn (o : Outcome) : Prop := o = .ignored ∨ o = .changed ∨ ∃ l, o = .candidates l

structure Onward (entries : List Text) (e : Editor) (o : Outcome) (e' : Editor) : Prop where
  on : GoesOn o
  recalled : e.recalled.Goes entries e'.recalled

inductive Leads (enters : Prop) (entries : List Text) (e : Editor) : Outcome → Editor → Prop
  | onward {o : Outcome} {e' : Editor} (goes : Onward entries e o e') : Leads enters entries e o e'
  | submits (entered : enters) : Leads enters entries e (.submit e.buffer.text) {}
  | ends (empty : e.buffer.isEmpty = true) : Leads enters entries e .endOfFile e
  | aborts : Leads enters entries e .abort e

theorem Leads.weaken {enters enters' : Prop} (leads : Leads enters entries e o e') (within : enters → enters') :
    Leads enters' entries e o e' := by
  cases leads with
  | onward goes => exact .onward goes
  | submits entered => exact .submits (within entered)
  | ends empty => exact .ends empty
  | aborts => exact .aborts

theorem Onward.unsent (goes : Onward entries e o e') (t : Text) : o ≠ .submit t := by
  rintro rfl
  rcases goes.on with same | same | ⟨_,same⟩ <;> cases same

theorem Leads.enters {enters : Prop} {t : Text} (leads : Leads enters entries e (.submit t) e') : enters := by
  cases leads with
  | onward goes => exact absurd rfl (goes.unsent t)
  | submits entered => exact entered

def Answers (holds : Outcome → Editor → Prop) (answer : Option (Outcome × Editor)) : Prop :=
  ∀ o e', answer = some (o,e') → holds o e'

section
variable {holds : Outcome → Editor → Prop}

theorem answersSome (here : holds o e') : Answers holds (some (o,e')) := by
  intro o' e'' same
  cases same
  exact here

theorem answersBind {α : Type} {x : Option α} {f : α → Option (Outcome × Editor)}
    (each : ∀ a, Answers holds (f a)) : Answers holds (x.bind f) := by
  cases x with
  | none => exact fun _ _ => nofun
  | some a => exact each a

theorem answersMap {α : Type} {x : Option α} {f : α → Outcome × Editor}
    (each : ∀ a, holds (f a).1 (f a).2) : Answers holds (x.map f) := by
  intro o e' same
  obtain ⟨a,_,whole⟩ := Option.map_eq_some_iff.mp same
  have here := each a
  rw [whole] at here
  exact here

end

theorem onwardIgnored (e : Editor) : Onward entries e .ignored e := ⟨.inl rfl,.stays⟩

theorem onwardBuffer (e : Editor) (b : Buffer) : Onward entries e .changed (e.withBuffer b) :=
  ⟨.inr (.inl rfl),.stays⟩

theorem onwardAs {o : Outcome} (same : e'.recalled = e.recalled) (on : GoesOn o) : Onward entries e o e' :=
  ⟨on,by rw [same]; exact .stays⟩

theorem moveToOnward (e : Editor) (point : Nat) :
    Onward entries e (e.moveTo point).1 (e.moveTo point).2 := by
  unfold moveTo
  split
  · exact onwardIgnored e
  · exact onwardBuffer e _

theorem moveMaybeOnward (e : Editor) (point : Option Nat) :
    Onward entries e (e.moveTo? point).1 (e.moveTo? point).2 := by
  cases point with
  | none => exact onwardIgnored e
  | some point => exact moveToOnward e point

theorem cutOnward (e : Editor) (start stop : Nat) : Answers (Onward entries e) (e.cut start stop) :=
  answersMap fun b => onwardBuffer e b

theorem putOnward (e : Editor) (t : Text) : Answers (Onward entries e) (e.put t) :=
  answersMap fun b => onwardBuffer e b

theorem verticalOnward {α β : Type} {r : Recall} {x : Option α} {f : α → Option β} {g : β → Editor}
    (goes : e.recalled.Goes entries r) (kept : ∀ b, (g b).recalled = r) :
    Answers (Onward entries e) (x.bind fun a => (f a).bind fun b => some (.changed,g b)) :=
  answersBind fun _ => answersBind fun b => answersSome ⟨.inr (.inl rfl),by rw [kept b]; exact goes⟩

theorem moveToRecalls (e : Editor) (point : Nat) : (e.moveTo point).2.recalled = e.recalled := by
  unfold moveTo
  split <;> rfl

theorem lineUpOnward (e : Editor) : Answers (Onward entries e) (e.lineUp entries) := by
  refine answersBind fun start => answersBind fun column => ?_
  have walked : e.recalled.Goes entries (e.recalled.previous entries e.buffer.text).2 := .previous _
  split
  · split
    · rename_i recalled found
      rw [found] at walked
      exact answersSome ⟨.inl rfl,walked⟩
    · rename_i entry recalled found
      rw [found] at walked
      exact verticalOnward walked fun _ => rfl
  · exact verticalOnward .stays fun _ => moveToRecalls e _

theorem lineDownOnward (e : Editor) : Answers (Onward entries e) (e.lineDown entries) := by
  refine answersBind fun stop => answersBind fun column => ?_
  have walked : e.recalled.Goes entries (e.recalled.next entries).2 := .next
  split
  · split
    · rename_i recalled found
      rw [found] at walked
      exact answersSome ⟨.inl rfl,walked⟩
    · rename_i entry recalled found
      rw [found] at walked
      exact verticalOnward walked fun _ => rfl
  · exact verticalOnward .stays fun _ => moveToRecalls e _

theorem backspaceOnward (e : Editor) : Answers (Onward entries e) e.backspace := by
  refine answersBind fun previous => ?_
  split
  · exact answersSome (onwardIgnored e)
  · refine answersBind fun spaces => ?_
    split <;> exact cutOnward e _ _

theorem deleteForwardOnward (e : Editor) : Answers (Onward entries e) e.deleteForward := by
  refine answersBind fun next => ?_
  split
  · exact answersSome (onwardIgnored e)
  · exact cutOnward e _ _

theorem killOnward (e : Editor) (edge : Option Nat) {here : Nat → Prop} [DecidablePred here]
    (start stop : Nat → Nat) : Answers (Onward entries e)
      (edge.bind fun n => if here n then some (.ignored,e) else e.cut (start n) (stop n)) := by
  refine answersBind fun n => ?_
  split
  · exact answersSome (onwardIgnored e)
  · exact cutOnward e _ _

theorem killToEndOnward (e : Editor) : Answers (Onward entries e) e.killToEnd :=
  killOnward e _ (fun _ => e.buffer.point) fun stop => stop

theorem killToStartOnward (e : Editor) : Answers (Onward entries e) e.killToStart :=
  killOnward e _ (fun start => start) fun _ => e.buffer.point

theorem pasteOnward (e : Editor) (t : Text) : Answers (Onward entries e) (e.paste t) := by
  unfold paste
  dsimp only
  split
  · exact answersSome (onwardIgnored e)
  · exact putOnward e _

theorem breakLineRecalls {e e' : Editor} (broken : e.breakLine = some e') : e'.recalled = e.recalled := by
  simp only [breakLine,Option.bind_eq_bind] at broken
  obtain ⟨indent,_,broken⟩ := Option.bind_eq_some_iff.mp broken
  obtain ⟨leading,_,broken⟩ := Option.bind_eq_some_iff.mp broken
  have inserted {b : Buffer} (h : ((b.insert? ['\n']).bind fun b => (b.insert? (spaces indent)).bind fun b =>
      some (e.withBuffer b)) = some e') : e'.recalled = e.recalled := by
    obtain ⟨_,_,h⟩ := Option.bind_eq_some_iff.mp h
    obtain ⟨_,_,h⟩ := Option.bind_eq_some_iff.mp h
    cases h
    rfl
  cases leading with
  | some run =>
    obtain ⟨start,_,broken⟩ := Option.bind_eq_some_iff.mp broken
    obtain ⟨b,_,broken⟩ := Option.bind_eq_some_iff.mp broken
    exact inserted broken
  | none => exact inserted broken

theorem enterLeads {enters : Prop} (entered : enters) {s : Surroundings κ} :
    Answers (Leads enters entries e) (e.enter s) := by
  have broken : Answers (Leads enters entries e) (e.breakLine.map (.changed,·)) := by
    intro o e' same
    obtain ⟨e₁,found,whole⟩ := Option.map_eq_some_iff.mp same
    cases whole
    exact .onward (onwardAs (breakLineRecalls found) (.inr (.inl rfl)))
  have submitted : Answers (Leads enters entries e) (some e.submit) := answersSome (.submits entered)
  unfold enter
  dsimp only
  split
  · split
    · exact broken
    · exact submitted
  · split
    · exact submitted
    · split
      · exact submitted
      · split
        · exact broken
        · exact submitted

theorem answersPlain {holds : Outcome → Editor → Prop} {answer : Option (Outcome × Editor)} {k k' : κ}
    (each : Answers holds answer) (h : (answer.map fun (o,e) => (o,e,k)) = some (o,e',k')) : holds o e' := by
  obtain ⟨⟨o',e''⟩,found,whole⟩ := Option.map_eq_some_iff.mp h
  cases whole
  exact each o e' found

def Completes (s : Surroundings κ) (k k' : κ) : Prop :=
  k' = k ∨ ∃ context word, k' = (s.completer.complete k context word).2

theorem completesMapped {s : Surroundings κ} {k k' : κ} {answer : Option (Outcome × Editor)}
    (h : (answer.map fun (o,e) => (o,e,k)) = some (o,e',k')) : Completes s k k' := by
  cases answer with
  | none => contradiction
  | some found => cases h; exact .inl rfl

section
variable {enters : Prop} {s : Surroundings κ} {k k' : κ}

theorem keptLeads (leads : Leads enters entries e o e') : Leads enters entries e o e' ∧ Completes s k k :=
  ⟨leads,.inl rfl⟩

theorem answerLeads {answer : Option (Outcome × Editor)} (each : Answers (Leads enters entries e) answer)
    (h : (answer.map fun (o,e) => (o,e,k)) = some (o,e',k')) :
    Leads enters entries e o e' ∧ Completes s k k' := ⟨answersPlain each h,completesMapped h⟩

theorem plainLeads {answer : Option (Outcome × Editor)} (each : Answers (Onward entries e) answer)
    (h : (answer.map fun (o,e) => (o,e,k)) = some (o,e',k')) :
    Leads enters entries e o e' ∧ Completes s k k' := ⟨.onward (answersPlain each h),completesMapped h⟩

end

theorem tabLeads {enters : Prop} {s : Surroundings κ} {k k' : κ} (h : e.tab s k = some (o,e',k')) :
    Leads enters entries e o e' ∧ Completes s k k' := by
  simp only [tab,Option.bind_eq_bind,Option.bind_eq_some_iff] at h
  obtain ⟨spaces,_,h⟩ := h
  have inserted {rest : Text} {k₁ : κ} (completes : Completes s k k₁)
      (h : ((e.put rest).bind fun (o,e) => some (o,e,k₁)) = some (o,e',k')) :
      Leads enters entries e o e' ∧ Completes s k k' := by
    obtain ⟨⟨o₁,e₁⟩,found,whole⟩ := Option.bind_eq_some_iff.mp h
    cases whole
    exact ⟨.onward (putOnward e rest o e' found),completes⟩
  cases spaces with
  | some run => exact inserted (.inl rfl) h
  | none =>
    obtain ⟨start,_,h⟩ := Option.bind_eq_some_iff.mp h
    obtain ⟨word,_,h⟩ := Option.bind_eq_some_iff.mp h
    obtain ⟨context,_,h⟩ := Option.bind_eq_some_iff.mp h
    split at h
    · cases h
      exact ⟨.onward (onwardIgnored e),.inr ⟨context,word,rfl⟩⟩
    · exact inserted (.inr ⟨context,word,rfl⟩) h
    · cases h
      exact ⟨.onward ⟨.inr (.inr ⟨_,rfl⟩),.stays⟩,.inr ⟨context,word,rfl⟩⟩

theorem controlLeads {s : Surroundings κ} {k k' : κ} {c : Char} (h : e.control s k c = some (o,e',k')) :
    Leads (c = 'j' ∨ c = 'm') s.entries e o e' ∧ Completes s k k' := by
  unfold control at h
  dsimp only at h
  split at h
  · cases h
    exact keptLeads .aborts
  · split at h
    · rename_i empty
      cases h
      exact keptLeads (.ends empty)
    · exact plainLeads (deleteForwardOnward e) h
  · exact plainLeads (answersMap fun _ => moveToOnward e _) h
  · exact plainLeads (answersMap fun _ => moveToOnward e _) h
  · exact plainLeads (lineUpOnward e) h
  · exact plainLeads (lineDownOnward e) h
  · exact plainLeads (answersMap fun _ => moveMaybeOnward e _) h
  · exact plainLeads (answersMap fun _ => moveMaybeOnward e _) h
  · exact plainLeads (killToEndOnward e) h
  · exact plainLeads (killToStartOnward e) h
  · exact answerLeads (enterLeads (.inl rfl)) h
  · exact answerLeads (enterLeads (.inr rfl)) h
  · exact tabLeads h
  · exact plainLeads (backspaceOnward e) h
  · cases h
    exact keptLeads (.onward (onwardIgnored e))

theorem pressLeads {s : Surroundings κ} {k k' : κ} {key : Key} (h : e.press s k key = some (o,e',k')) :
    Leads (Key.Enters key) s.entries e o e' ∧ Completes s k k' := by
  unfold press at h
  dsimp only at h
  split at h
  · exact answerLeads (enterLeads (.inl ‹_›)) h
  · exact plainLeads (lineUpOnward e) h
  · exact plainLeads (lineDownOnward e) h
  · exact plainLeads (answersMap fun _ => moveToOnward e _) h
  · exact plainLeads (answersMap fun _ => moveToOnward e _) h
  · exact plainLeads (answersMap fun _ => moveMaybeOnward e _) h
  · exact plainLeads (answersMap fun _ => moveMaybeOnward e _) h
  · exact plainLeads (backspaceOnward e) h
  · exact plainLeads (deleteForwardOnward e) h
  · exact tabLeads h
  · rename_i c code
    split at h
    · rename_i held
      obtain ⟨leads,completes⟩ := controlLeads h
      exact ⟨leads.weaken fun lower => .inr ⟨held,c,lowerEnters lower,code⟩,completes⟩
    · split at h
      · cases h
        exact keptLeads (.onward (onwardIgnored e))
      · exact plainLeads (putOnward e _) h
  · cases h
    exact keptLeads (.onward (onwardIgnored e))

theorem handleLeads {s : Surroundings (κ × Signals)} {r : LineReader} {state state' : κ × Signals}
    {event : Event} (h : r.handle s state event = some (o,e',state')) :
    Leads True s.entries r.editor o e' ∧ Completes s state state' := by
  unfold LineReader.handle at h
  split at h
  · cases h
    exact keptLeads (.onward (onwardIgnored _))
  · obtain ⟨leads,completes⟩ := pressLeads h
    exact ⟨leads.weaken fun _ => trivial,completes⟩
  · exact plainLeads (pasteOnward _ _) h
  · cases h
    exact keptLeads (.onward (onwardAs rfl (.inr (.inl rfl))))
  · cases h
    exact keptLeads (.onward (onwardIgnored _))

end Editor

end ScriptConsole
