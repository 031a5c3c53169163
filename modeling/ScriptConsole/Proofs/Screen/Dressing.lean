import ScriptConsole.Proofs.Screen.Redisplay

/-! A terminal in colour, and the sequences that set its colour or take it back. They show nothing, in
marked text they are hidden runs, and in text without marks they can be taken out again. -/
namespace ScriptConsole

structure Pen where
  colour : Option Nat
  intake : Intake
  shown : List (Char × Option Nat)
  deriving DecidableEq, Repr

namespace Pen

def dress (colour : Option Nat) (params : Text) : Option Nat :=
  if params = ['0'] then none
  else match params with
    | '3' :: '8' :: ';' :: '5' :: ';' :: number => Text.digitsFrom? 0 number
    | _ => colour

def step (p : Pen) (c : Char) : Pen :=
  match p.intake with
  | .escape => { p with intake := if c = '[' then .control [] else .ground }
  | .control read =>
      if Escape.isFinal c then
        { p with intake := .ground, colour := if c = 'm' then dress p.colour read else p.colour }
      else { p with intake := .control (read ++ [c]) }
  | .ground =>
      if c = '\x1b' then { p with intake := .escape }
      else if c = Marked.hiddenStart ∨ c = Marked.hiddenEnd then p
      else { p with shown := p.shown ++ [(c,p.colour)] }

def read (p : Pen) (sent : Text) : Pen := sent.foldl step p

theorem readAppend (p : Pen) (a b : Text) : p.read (a ++ b) = (p.read a).read b := List.foldl_append

theorem readParameters {p : Pen} {seen params : Text} (inside : p.intake = .control seen)
    (open' : ∀ c ∈ params, Escape.isFinal c = false) :
    p.read params = { p with intake := .control (seen ++ params) } := by
  induction params generalizing p seen with
  | nil => rw [List.append_nil,← inside]; rfl
  | cons c rest ih =>
    have here : p.step c = { p with intake := .control (seen ++ [c]) } := by
      simp only [step,inside,open' c List.mem_cons_self,Bool.false_eq_true,if_false]
    show (p.step c).read rest = _
    rw [here,ih rfl fun d there => open' d (List.mem_cons_of_mem _ there)]
    simp

end Pen

namespace Escape

def dressing (params : Text) : Text := '\x1b' :: '[' :: (params ++ ['m'])

def Parameters (params : Text) : Prop := ∀ c ∈ params, c.isDigit = true ∨ c = ';'

theorem parameterNotFinal {params : Text} (fits : Parameters params) : ∀ c ∈ params, isFinal c = false := by
  intro c inside
  rcases fits c inside with digit | rfl
  · exact Terminal.digitNotFinal digit
  · decide

theorem parameterUnmarked {params : Text} (fits : Parameters params) : Marked.hiddenEnd ∉ dressing params := by
  intro inside
  simp only [dressing,List.mem_cons,List.mem_append,List.not_mem_nil,or_false] at inside
  rcases inside with escape | bracket | inside | final
  · exact absurd escape (by decide)
  · exact absurd bracket (by decide)
  · rcases fits _ inside with digit | semicolon
    · exact absurd digit (by decide)
    · exact absurd semicolon (by decide)
  · exact absurd final (by decide)

theorem dressingColours {params : Text} (fits : Parameters params) : Colours (dressing params) :=
  .cons (fun c inside => (fits c inside).imp_right .inl) .nil

theorem stripDressing {params : Text} (fits : Parameters params) (rest : Text) :
    strip (dressing params ++ rest) = strip rest := by
  have whole : dressing params ++ rest = '\x1b' :: '[' :: (params ++ 'm' :: rest) := by simp [dressing]
  have after : afterSequence (params ++ 'm' :: rest) = rest := by
    rw [afterSequence,List.dropWhile_append_of_pos (by simpa using parameterNotFinal fits),
      List.dropWhile_cons_of_neg (by decide)]
    rfl
  rw [whole,strip,after]

theorem stripPlain {c : Char} (plain : c ≠ '\x1b') (rest : Text) : strip (c :: rest) = c :: strip rest := by
  rw [strip]
  rintro _ rfl
  exact absurd rfl plain

theorem readDressing {params : Text} (fits : Parameters params) (colour : Option Nat)
    (shown : List (Char × Option Nat)) :
    Pen.read ⟨colour,.ground,shown⟩ (dressing params) = ⟨Pen.dress colour params,.ground,shown⟩ := by
  have start : Pen.read ⟨colour,.ground,shown⟩ ['\x1b','['] = ⟨colour,.control [],shown⟩ := rfl
  have parts : dressing params = ['\x1b','['] ++ (params ++ ['m']) := rfl
  rw [parts,Pen.readAppend,start,Pen.readAppend,Pen.readParameters rfl (parameterNotFinal fits)]
  rfl

theorem resetParameters : Parameters ['0'] := List.forall_mem_singleton.mpr (.inl rfl)

def Colour.parameters (c : Colour) : Text := "38;5;".toList ++ Text.ofNat c.index

theorem foregroundParameters (c : Colour) : Parameters c.parameters := by
  have front : "38;5;".toList.all (fun d => d.isDigit || d = ';') = true := by decide
  intro d inside
  rcases List.mem_append.mp inside with mode | number
  · simpa using List.all_eq_true.mp front d mode
  · exact .inl (Text.ofNatIsDigit number)

theorem foregroundDresses (c : Colour) (colour : Option Nat) : Pen.dress colour c.parameters = some c.index :=
  Text.digitsFromOfNat c.index

end Escape

namespace Marked

def hidesAfter (hidden : Bool) (c : Char) : Bool :=
  if c = hiddenStart then true else if c = hiddenEnd then false else hidden

def hides (t : Text) : Bool := t.foldl hidesAfter false

theorem visibleHidden {run : Text} (closed : hiddenEnd ∉ run) (rest : Text) :
    visibleFrom true (run ++ hiddenEnd :: rest) = visibleFrom false rest := by
  induction run with
  | nil => rfl
  | cons c run ih =>
    rw [List.cons_append,visibleInside fun same => closed (same ▸ List.mem_cons_self),
      ih fun inside => closed (List.mem_cons_of_mem _ inside)]

theorem runsHidden {run : Text} (closed : hiddenEnd ∉ run) (seen rest : Text) :
    runsFrom (some seen) (run ++ hiddenEnd :: rest) = (seen ++ run) :: runsFrom none rest := by
  induction run generalizing seen with
  | nil => rw [List.nil_append,List.append_nil,runsFrom,if_pos rfl]
  | cons c run ih =>
    have other : c ≠ hiddenEnd := fun same => closed (same ▸ List.mem_cons_self)
    rw [List.cons_append,runsFrom,if_neg other,ih fun inside => closed (List.mem_cons_of_mem _ inside),
      List.append_assoc]
    rfl

theorem shownVisible {c : Char} (start : c ≠ hiddenStart) (ending : c ≠ hiddenEnd) (before after : Text)
    (shown : hides before = false) : c ∈ visible (before ++ c :: after) := by
  suffices general : ∀ hidden, before.foldl hidesAfter hidden = false →
      c ∈ visibleFrom hidden (before ++ c :: after) from general false shown
  clear shown
  intro hidden
  induction hidden, before using readingInduction with
  | nil hidden =>
    rintro rfl
    rw [List.nil_append,visibleShown start ending]
    exact List.mem_cons_self
  | ending hidden rest ih => exact ih
  | inside d rest ends ih =>
    intro left
    have same : hidesAfter true d = true := by rw [hidesAfter,if_neg ends,ite_self]
    rw [List.foldl_cons,same] at left
    rw [List.cons_append,visibleInside ends]
    exact ih left
  | start rest ih => exact ih
  | shown d rest starts ends ih =>
    intro left
    have same : hidesAfter false d = false := by rw [hidesAfter,if_neg starts,if_neg ends]
    rw [List.foldl_cons,same] at left
    rw [List.cons_append,visibleShown starts ends]
    exact List.mem_cons_of_mem _ (ih left)

end Marked

end ScriptConsole
