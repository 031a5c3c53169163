import ScriptConsole.Proofs.Edit.Ending
import ScriptConsole.Proofs.Edit.Keys

/-! The prompt goes on whatever it is given. Keys, pasted texts and resets come in any order, and each
key finds a language, a history, candidates and a bypass of its own; every one has a result, no offset
leaves the text, and only the keys for Enter hand the text over. -/
namespace ScriptConsole.Editor
open Buffer
variable {κ : Type}

def Unsent (answer : Option (Outcome × Editor)) : Prop := ∀ t e', answer ≠ some (.submit t,e')

theorem pasteUnsent (e : Editor) (t : Text) : Unsent (e.paste t) := by
  have onward : Answers (Onward [] e) (e.paste t) := pasteOnward e t
  exact fun t' e' found => (onward (.submit t') e' found).unsent t' rfl

theorem pressSubmits {e e' : Editor} {s : Surroundings κ} {k k' : κ} {key : Key} {t : Text}
    (h : e.press s k key = some (.submit t,e',k')) : Key.Enters key := (pressLeads h).1.enters

/-! ## One act -/

def retreat (run : Nat) : Nat := if run % indentWidth = 0 then indentWidth else run % indentWidth

theorem backspaceRetreats {e : Editor} (placed : e.buffer.Placed) {run : Nat}
    (spaces : Text.leadingSpaces? e.buffer.text e.buffer.point = some (some (run + 1))) :
    retreat (run + 1) ≤ e.buffer.point ∧
      e.backspace = e.cut (e.buffer.point - retreat (run + 1)) e.buffer.point := by
  obtain ⟨before,after,same⟩ := placed
  have leading := spaces
  rw [same,partsText,partsPoint,Text.leadingSpacesAt,Option.some.injEq] at leading
  split at leading
  · rename_i spacesOnly
    have length : (Text.openLine before).length = run + 1 := Option.some.inj leading
    obtain ⟨pre,whole,_⟩ := Text.openLineParts before
    have sizes := congrArg Text.size whole
    rw [Text.sizeAppend,Text.spacesOfAll spacesOnly,length] at sizes
    have back : ∃ previous, e.buffer.previous? = some (some previous) := by
      rw [same]
      rcases previousAt before after with ⟨rfl,_⟩ | ⟨init,_,_,previous⟩
      · cases length
      · exact ⟨_,previous⟩
    obtain ⟨previous,back⟩ := back
    refine ⟨?_,?_⟩
    · rw [same,partsPoint]
      unfold retreat indentWidth
      split <;> omega
    · simp only [backspace,back,spaces,bind,Option.bind,retreat]
  · cases leading

structure Handles (e : Editor) (o : Outcome) (e' : Editor) : Prop where
  placed : e'.buffer.Placed
  still : o = .ignored → e'.buffer = e.buffer
  handed : ∀ t, o = .submit t → t = e.buffer.text

structure Unbroken (e : Editor) (k : κ) : Prop where
  placed : e.buffer.Placed
  pressed : ∀ key (s : Surroundings κ), ∃ o e' k', e.press s k key = some (o,e',k') ∧ Handles e o e' ∧
    ∀ t, o = .submit t → Key.Enters key
  pasted : ∀ t, ∃ o e', e.paste t = some (o,e') ∧ Handles e o e' ∧ ∀ t', o ≠ .submit t'
  retreats : ∀ run, Text.leadingSpaces? e.buffer.text e.buffer.point = some (some (run + 1)) →
    retreat (run + 1) ≤ e.buffer.point ∧
      e.backspace = e.cut (e.buffer.point - retreat (run + 1)) e.buffer.point

abbrev Firm (e : Editor) : Prop := e.Sound fun _ => True

theorem suppliesAny (s : Surroundings κ) : Supplies (fun _ => True) s :=
  ⟨fun _ _ _ _ => trivial,fun _ _ _ _ _ _ _ => trivial⟩

theorem goodHandles {e e' : Editor} {o : Outcome} (good : Good (fun _ => True) e o e') : Handles e o e' :=
  ⟨good.sound.placed,good.still,good.handed⟩

theorem pressFirm {e : Editor} (firm : e.Firm) (key : Key) (s : Surroundings κ) (k : κ) :
    ∃ o e' k', e.press s k key = some (o,e',k') ∧ Good (fun _ => True) e o e' :=
  pressGood trivial trivial firm (suppliesAny s) k fun _ _ => trivial

theorem pasteFirm {e : Editor} (firm : e.Firm) (t : Text) :
    ∃ o e', e.paste t = some (o,e') ∧ Good (fun _ => True) e o e' :=
  pasteGood trivial trivial firm fun _ _ _ => trivial

theorem firmUnbroken {e : Editor} (firm : e.Firm) (k : κ) : e.Unbroken k where
  placed := firm.placed
  pressed key s := by
    obtain ⟨o,e',k',found,good⟩ := pressFirm firm key s k
    refine ⟨o,e',k',found,goodHandles good,?_⟩
    rintro t rfl
    exact pressSubmits found
  pasted t := by
    obtain ⟨o,e',found,good⟩ := pasteFirm firm t
    refine ⟨o,e',found,goodHandles good,?_⟩
    rintro t' rfl
    exact pasteUnsent e t t' e' found
  retreats _ spaces := backspaceRetreats firm.placed spaces

/-! ## Any number of acts -/

inductive Act (κ : Type)
  | key (key : Key) (s : Surroundings κ)
  | paste (t : Text)
  | clear

def Act.perform (now : Editor × κ) : Act κ → Option (Editor × κ)
  | .key pressed s => (now.1.press s now.2 pressed).map fun (_,e,k) => (e,k)
  | .paste t => (now.1.paste t).map fun (_,e) => (e,now.2)
  | .clear => some ({},now.2)

theorem firmInitial : Firm {} := ⟨emptyPlaced,nofun,nofun⟩

theorem actFirm {e : Editor} (firm : e.Firm) (k : κ) (act : Act κ) :
    ∃ e' k', act.perform (e,k) = some (e',k') ∧ e'.Firm := by
  cases act with
  | key key s =>
    obtain ⟨o,e',k',found,good⟩ := pressFirm firm key s k
    exact ⟨e',k',by rw [Act.perform,found]; rfl,good.sound⟩
  | paste t =>
    obtain ⟨o,e',found,good⟩ := pasteFirm firm t
    exact ⟨e',k,by rw [Act.perform,found]; rfl,good.sound⟩
  | clear => exact ⟨{},k,rfl,firmInitial⟩

theorem actsFirm {e : Editor} (firm : e.Firm) (k : κ) (acts : List (Act κ)) :
    ∃ e' k', acts.foldlM Act.perform (e,k) = some (e',k') ∧ e'.Firm := by
  induction acts generalizing e k with
  | nil => exact ⟨e,k,rfl,firm⟩
  | cons act rest ih =>
    obtain ⟨e₁,k₁,performed,firm₁⟩ := actFirm firm k act
    obtain ⟨e₂,k₂,ran,firm₂⟩ := ih firm₁ k₁
    exact ⟨e₂,k₂,by rw [List.foldlM_cons,performed]; exact ran,firm₂⟩

/- The acts so far are any; so this holds at every moment. The cuts that completion makes are checked
for every word and every list of candidates, whoever gave them. -/
theorem actsNeverBreak (k : κ) (acts : List (Act κ)) :
    (∃ e k', acts.foldlM Act.perform ({},k) = some (e,k') ∧ e.Unbroken k') ∧
      ∀ word candidates,
        Completion.resolveSlice? word candidates = some (Completion.resolve word candidates) := by
  obtain ⟨e,k',ran,firm⟩ := actsFirm firmInitial k acts
  exact ⟨⟨e,k',ran,firmUnbroken firm k'⟩,Completion.resolveSliced⟩

end ScriptConsole.Editor
