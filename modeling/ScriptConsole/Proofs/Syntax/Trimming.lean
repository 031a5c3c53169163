import ScriptConsole.Proofs.Syntax.Lexing

/-! The scan reads its text without the blanks at the end. They decide nothing, unless a newline
among them ends a quotation or a regular expression; and nothing behind a wrong character does. -/
namespace ScriptConsole.Continuation
open Text (isBlank trimEnd blankNot blankNotWord)

theorem wrongStays {s : State} (wrong : s.mode = .wrong) (t : Text) : run s t = s := by
  induction t with
  | nil => rfl
  | cons c rest ih =>
    have one : step s c = s := by simp [step,wrong]
    rw [runCons,one,ih]

def State.Waits (s : State) : Prop :=
  match s.mode with
  | .sign _ c | .quoted c _ => isBlank c = false
  | _ => True

theorem closeWaits (closes : Opening → Bool) (stack : List Opening) : (close closes stack).Waits := by
  unfold close
  split
  · split
    · unfold afterCloser
      split <;> trivial
    · trivial
  · trivial

theorem codeWaits (stack : List Opening) (tail : Tail) (c : Char) : (codeStep stack tail c).Waits := by
  unfold codeStep
  refine iteInduction (motive := State.Waits) (fun _ => trivial) fun blank => ?_
  repeat' refine iteInduction (motive := State.Waits) (fun _ => ?_) fun _ => ?_
  all_goals first
    | exact closeWaits _ _
    | exact (Bool.not_eq_true _).mp blank
    | trivial

theorem stepWaits {s : State} (waits : s.Waits) (c : Char) : (step s c).Waits := by
  have code := fun tail => codeWaits s.stack tail c
  obtain ⟨stack,mode⟩ := s
  cases mode <;> simp only [State.Waits,step,regexStep,templateStep] at code waits ⊢ <;> grind

theorem blankKeeps {s : State} (waits : s.Waits) {c : Char} (blank : isBlank c = true) :
    (step s c).mode = .wrong ∨ (step s c).unfinished = s.unfinished := by
  have word := blankNotWord blank
  have slash : c ≠ '/' := blankNot blank (by decide)
  have star : c ≠ '*' := blankNot blank (by decide)
  have dot : c ≠ '.' := blankNot blank (by decide)
  have tick : c ≠ '`' := blankNot blank (by decide)
  have brace : c ≠ '{' := blankNot blank (by decide)
  have code := fun tail => codeBlank s.stack tail blank
  obtain ⟨stack,mode⟩ := s
  cases mode with
  | code tail => right; simp only [step,code]
  | word numeric seen => right; simp [step,word,dot,code,State.unfinished,wordTailIdle]
  | slash tail =>
    cases tail with
    | operand => right; simp [step,slash,star,code,State.unfinished]
    | start | operator | keyword => grind [step,State.unfinished,regexStep]
  | sign tail which =>
    have other : c ≠ which := blankNot blank waits
    right
    simp [step,other,code,State.unfinished]
  | lineComment tail => right; simp only [step]; split <;> rfl
  | blockComment tail star => right; simp [step,slash,State.unfinished]
  | quoted quote escaped =>
    have other : c ≠ quote := blankNot blank waits
    cases escaped <;> grind [step,State.unfinished]
  | regex inClass escaped => grind [step,State.unfinished,regexStep]
  | regexFlags => right; simp [step,word,code,State.unfinished]
  | template escaped dollar => right; grind [step,State.unfinished,templateStep]
  | wrong => left; rfl

theorem blanksKeep {s : State} (waits : s.Waits) {gap : Text} (blank : gap.all isBlank = true) :
    (run s gap).mode = .wrong ∨ (run s gap).unfinished = s.unfinished := by
  induction gap generalizing s with
  | nil => exact .inr rfl
  | cons c rest ih =>
    simp only [List.all_cons,Bool.and_eq_true] at blank
    rw [runCons]
    rcases blankKeeps waits blank.1 with wrong | same
    · exact .inl (by rw [wrongStays wrong]; exact wrong)
    · exact (ih (stepWaits waits c) blank.2).imp_right (·.trans same)

theorem runWaits {s : State} (waits : s.Waits) (t : Text) : (run s t).Waits := by
  induction t generalizing s with
  | nil => exact waits
  | cons c rest ih => exact ih (stepWaits waits c)

/- The trailing blanks decide nothing, unless a newline among them spoils the text. -/
theorem trimmed (t : Text) :
    (run .start t).mode = .wrong ∨ endsInside t = (run .start t).unfinished := by
  have whole := congrArg (run .start) (Text.trimEndParts t)
  rw [runAppend] at whole
  have fresh : State.start.Waits := trivial
  have waits := runWaits fresh (trimEnd t)
  rw [whole]
  exact (blanksKeep waits (Text.blankTailBlank t)).imp_right Eq.symm

theorem insideOfRun {t : Text} (unfinished : (run .start t).unfinished = true) : endsInside t = true := by
  rcases trimmed t with wrong | same
  · simp [State.unfinished,wrong] at unfinished
  · rw [same,unfinished]

theorem Rests.endsInside {t : Text} {stack : List Opening} {tail : Tail}
    (rests : Rests (run .start t) stack tail) :
    endsInside t = (!stack.isEmpty || tail = .operator) := by
  rcases trimmed t with wrong | same
  · have blank := rests.blank ' ' rfl
    simp [step,wrong] at blank
    simp [blank] at wrong
  · rw [same,rests.unfinished]

def Spoils (s : State) (t : Text) : Prop :=
  ∃ pre c post, t = pre ++ c :: post ∧ isBlank c = false ∧ (run s (pre ++ [c])).mode = .wrong

theorem Spoils.before {s : State} {t : Text} (spoils : Spoils s t) (more : Text) : Spoils s (t ++ more) := by
  obtain ⟨pre,c,post,parts,content,wrong⟩ := spoils
  exact ⟨pre,c,post ++ more,by simp [parts],content,wrong⟩

theorem Spoils.after {s : State} {front t : Text} (spoils : Spoils (run s front) t) :
    Spoils s (front ++ t) := by
  obtain ⟨pre,c,post,parts,content,wrong⟩ := spoils
  refine ⟨front ++ pre,c,post,by simp [parts],content,?_⟩
  rwa [List.append_assoc,runAppend]

theorem Spoils.endsInside {t : Text} (spoils : Spoils .start t) : endsInside t = false := by
  obtain ⟨pre,c,post,parts,content,wrong⟩ := spoils
  obtain ⟨kept,trim⟩ := Text.trimEndKeeps pre content post
  have split : trimEnd t = (pre ++ [c]) ++ kept := by rw [parts,trim]; simp
  rw [Continuation.endsInside,split,runAppend,wrongStays wrong]
  simp [State.unfinished,wrong]

end ScriptConsole.Continuation
