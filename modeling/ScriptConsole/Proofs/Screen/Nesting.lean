import ScriptConsole.Screen.Colouring

/-! Highlights around one another. Wherever starts and ends match, the events are pieces of text and whole
highlights, and each character has a colour: that of the innermost highlight around it that has one. -/
namespace ScriptConsole.Colouring

abbrev Shown := List (Char × Option Escape.Colour)

def sourceOf (events : List Event) : Text :=
  events.flatMap fun
    | .text piece => piece
    | _ => []

def inForce (around : List Nat) : Option Escape.Colour := around.findSome? colourOf

/-- Properly nested events with highlights around them, and their characters, each with the colour that is
in force there. -/
inductive Shows : List Nat → List Event → Shown → Prop
  | nil (around : List Nat) : Shows around [] []
  | text {around : List Nat} {rest : List Event} {shown : Shown} (piece : Text) (later : Shows around rest shown) :
      Shows around (.text piece :: rest) (piece.map (·,inForce around) ++ shown)
  | highlight {around : List Nat} {index : Nat} {inner rest : List Event} {within shown : Shown}
      (inside : Shows (index :: around) inner within) (later : Shows around rest shown) :
      Shows around (.start index :: (inner ++ .stop :: rest)) (within ++ shown)

def texts (shown : Shown) : Text := shown.map (·.1)

theorem textsAppend (shown shown' : Shown) : texts (shown ++ shown') = texts shown ++ texts shown' := List.map_append

theorem showsSource {around : List Nat} {events : List Event} {shown : Shown} (shows : Shows around events shown) :
    texts shown = sourceOf events := by
  induction shows with
  | nil around => rfl
  | text piece later ih =>
    rw [textsAppend,ih]
    simp [texts,sourceOf,Function.comp_def]
  | highlight inside later ihInside ihLater =>
    rw [textsAppend,ihInside,ihLater]
    simp [sourceOf]

def openBehind : Nat → List Event → Option Nat
  | n,[] => some n
  | n,.text _ :: rest => openBehind n rest
  | n,.start _ :: rest => openBehind (n + 1) rest
  | 0,.stop :: _ => none
  | n + 1,.stop :: rest => openBehind n rest

def Nested (events : List Event) : Prop := openBehind 0 events = some 0

instance (events : List Event) : Decidable (Nested events) := inferInstanceAs (Decidable (_ = _))

theorem openAppend (n : Nat) (a b : List Event) : openBehind n (a ++ b) = (openBehind n a).bind (openBehind · b) := by
  induction a generalizing n with
  | nil => rfl
  | cons event rest ih =>
    cases event with
    | text piece => exact ih n
    | start index => exact ih (n + 1)
    | stop =>
      cases n with
      | zero => rfl
      | succ n => exact ih n

theorem openDeeper {m n : Nat} {events : List Event} (fits : openBehind m events = some n) (outer : Nat) :
    openBehind (m + outer) events = some (n + outer) := by
  induction events generalizing m with
  | nil => cases fits; rfl
  | cons event rest ih =>
    cases event with
    | text piece => exact ih fits
    | start index =>
      have deeper := ih (m := m + 1) fits
      rwa [Nat.add_right_comm] at deeper
    | stop =>
      cases m with
      | zero => cases fits
      | succ m =>
        rw [Nat.add_right_comm]
        exact ih (m := m) fits

theorem nestedPart {n : Nat} {events : List Event} (closes : openBehind (n + 1) events = some 0) :
    ∃ inner rest, events = inner ++ .stop :: rest ∧ Nested inner ∧ openBehind n rest = some 0 := by
  induction size : events.length using Nat.strongRecOn generalizing n events with
  | ind size' ih =>
    subst size
    cases events with
    | nil => cases closes
    | cons event rest =>
      cases event with
      | text piece =>
        have closes' : openBehind (n + 1) rest = some 0 := closes
        obtain ⟨inner,more,rfl,nested,outer⟩ := ih rest.length (Nat.lt_succ_self _) closes' rfl
        exact ⟨.text piece :: inner,more,rfl,nested,outer⟩
      | stop => exact ⟨[],rest,rfl,rfl,closes⟩
      | start index =>
        have closes' : openBehind (n + 2) rest = some 0 := closes
        obtain ⟨inner,more,rfl,nested,deeper⟩ := ih rest.length (Nat.lt_succ_self _) closes' rfl
        have shorter : more.length < (Event.start index :: (inner ++ .stop :: more)).length := by
          simp only [List.length_cons,List.length_append]; omega
        obtain ⟨inner',more',rfl,nested',outer⟩ := ih more.length shorter deeper rfl
        refine ⟨.start index :: (inner ++ .stop :: inner'),more',by simp,?_,outer⟩
        show openBehind 1 (inner ++ .stop :: inner') = some 0
        rw [openAppend,openDeeper nested 1]
        exact nested'

theorem nestedShows (around : List Nat) {events : List Event} (nested : Nested events) :
    ∃ shown, Shows around events shown := by
  induction size : events.length using Nat.strongRecOn generalizing around events with
  | ind size' ih =>
    subst size
    cases events with
    | nil => exact ⟨[],.nil around⟩
    | cons event rest =>
      cases event with
      | stop => cases nested
      | text piece =>
        have nested' : Nested rest := nested
        obtain ⟨shown,shows⟩ := ih rest.length (Nat.lt_succ_self _) around nested' rfl
        exact ⟨_,.text piece shows⟩
      | start index =>
        obtain ⟨inner,more,rfl,inside,outer⟩ := nestedPart nested
        have sizes : inner.length + more.length + 2 = (Event.start index :: (inner ++ .stop :: more)).length := by
          simp only [List.length_cons,List.length_append]; omega
        obtain ⟨within,shows⟩ := ih inner.length (by omega) (index :: around) inside rfl
        obtain ⟨shown,later⟩ := ih more.length (by omega) around outer rfl
        exact ⟨_,.highlight shows later⟩

end ScriptConsole.Colouring
