import ScriptConsole.Grammar.JavaScript
import ScriptConsole.Proofs.Syntax.Trimming

/-! An operator that stands last, behind an operand. One that is written in signs leaves the text
unfinished. The two that are words count as the keywords they share their spelling with, and a keyword
leaves unfinished only what an open bracket does. -/
namespace ScriptConsole.Continuation
open Text (isBlank isWord trimEnd)

def assignments : List String :=
  ["=","+=","-=","*=","/=","%=","**=","<<=",">>=",">>>=","&=","^=","|=","&&=","||=","??="]

def operators : List String := "," :: Grammar.JavaScript.binaryOperators.map Prod.fst ++ assignments

def wordOperators : List String := ["in","instanceof"]

def State.OperandLast (s : State) : Prop :=
  match s.mode with
  | .code tail | .lineComment tail => tail = .operand
  | .word _ seen => wordTail seen = .operand
  | .regexFlags => True
  | _ => False
instance (s : State) : Decidable s.OperandLast := by unfold State.OperandLast; split <;> infer_instance

/-! ## Behind an operand -/

theorem blankBehind {s : State} (last : s.OperandLast) {c : Char} (blank : isBlank c = true) :
    (step s c).OperandLast ∧ (step s c).stack = s.stack := by
  have word := Text.blankNotWord blank
  have dot : c ≠ '.' := Text.blankNot blank (by decide)
  obtain ⟨stack,mode⟩ := s
  cases mode <;> simp only [State.OperandLast] at last
  case code tail =>
    rw [show step ⟨stack,.code tail⟩ c = ⟨stack,.code tail⟩ from codeBlank stack tail blank]
    exact ⟨last,rfl⟩
  case word numeric seen => simp [step,word,dot,codeBlank _ _ blank,last,State.OperandLast]
  case lineComment tail => by_cases newline : c = '\n' <;> simp [step,newline,last,State.OperandLast]
  case regexFlags => simp [step,word,codeBlank _ _ blank,State.OperandLast]

theorem newlineBehind {s : State} (last : s.OperandLast) : step s '\n' = ⟨s.stack,.code .operand⟩ := by
  have word : isWord '\n' = false := by decide
  have blank : isBlank '\n' = true := by decide
  obtain ⟨stack,mode⟩ := s
  cases mode <;> simp only [State.OperandLast] at last
  case code tail => rw [last]; exact codeBlank stack .operand blank
  case word numeric seen => simp [step,word,codeBlank _ _ blank,last]
  case lineComment tail => rw [last]; rfl
  case regexFlags => simp [step,word,codeBlank _ _ blank]

theorem settledBehind {s : State} (last : s.OperandLast) {gap : Text} (blank : gap.all isBlank = true) :
    run s (gap ++ ['\n']) = ⟨s.stack,.code .operand⟩ := by
  induction gap generalizing s with
  | nil => exact newlineBehind last
  | cons c rest ih =>
    simp only [List.all_cons,Bool.and_eq_true] at blank
    obtain ⟨still,same⟩ := blankBehind last blank.1
    rw [List.cons_append,runCons,ih still blank.2,same]

theorem readBehind {source : Text} (last : (run .start (trimEnd source)).OperandLast) (more : Text) :
    run .start (source ++ '\n' :: more) = run ⟨(run .start (trimEnd source)).stack,.code .operand⟩ more := by
  have parts : source ++ '\n' :: more = trimEnd source ++ ((Text.blankTail source ++ ['\n']) ++ more) := by
    conv => lhs; rw [Text.trimEndParts source]
    simp
  rw [parts,runAppend,runAppend,settledBehind last (Text.blankTailBlank source)]

/-! ## Signs -/

def isSign (c : Char) : Bool :=
  !isBlank c && !isWord c && !(['\'','"','`','{','}','(',')','[',']',';'].contains c)

def isPlain (c : Char) : Bool := isSign c && !(['/','+','-'].contains c)

/- Only the first sign may be a slash, which opens no comment, or one of the two that can double. -/
def isSigns : Text → Bool
  | [] => false
  | c :: rest => isSign c && rest.all isPlain && !(c = '/' && rest.head? = some '*')

def Operator.ofSign {c : Char} (sign : isSign c = true) : Operator where
  char := c
  notBlank := by simp [isSign] at sign; exact sign.1.1
  notWord := by simp [isSign] at sign; exact sign.1.2
  notOther := by simp [isSign] at sign ⊢; exact sign.2

theorem plainStep (stack : List Opening) (last : Tail) {c : Char} (plain : isPlain c = true) :
    codeStep stack last c = ⟨stack,.code .operator⟩ := by
  simp only [isPlain,Bool.and_eq_true] at plain
  exact codePlain stack last (.ofSign plain.1) (by simpa [Operator.ofSign] using plain.2)

theorem plainKeeps (stack : List Opening) {signs : Text} (plain : signs.all isPlain = true) :
    run ⟨stack,.code .operator⟩ signs = ⟨stack,.code .operator⟩ := by
  induction signs with
  | nil => rfl
  | cons c rest ih =>
    simp only [List.all_cons,Bool.and_eq_true] at plain
    have one : step ⟨stack,.code .operator⟩ c = ⟨stack,.code .operator⟩ := plainStep stack .operator plain.1
    rw [runCons,one,ih plain.2]

theorem firstSign (stack : List Opening) {c : Char} (sign : isSign c = true) :
    codeStep stack .operand c = ⟨stack,.code .operator⟩ ∨
      (c = '/' ∧ codeStep stack .operand c = ⟨stack,.slash .operand⟩) ∨
      ((c = '+' ∨ c = '-') ∧ codeStep stack .operand c = ⟨stack,.sign .operand c⟩) := by
  by_cases slash : c = '/'
  · subst slash; exact .inr (.inl ⟨rfl,rfl⟩)
  · by_cases double : c = '+' ∨ c = '-'
    · exact .inr (.inr ⟨double,codeSign stack .operand ⟨c,double⟩⟩)
    · exact .inl (plainStep stack .operand (by simpa [isPlain,sign,slash] using double))

theorem signsUnfinished (stack : List Opening) {signs : Text} (written : isSigns signs = true) :
    (run ⟨stack,.code .operand⟩ signs).unfinished = true := by
  obtain ⟨c,rest,rfl⟩ : ∃ c rest, signs = c :: rest := by
    cases signs with
    | nil => cases written
    | cons c rest => exact ⟨c,rest,rfl⟩
  simp only [isSigns,Bool.and_eq_true,Bool.not_eq_true'] at written
  obtain ⟨⟨sign,plain⟩,division⟩ := written
  have first := firstSign stack sign
  cases rest with
  | nil =>
    show (codeStep stack .operand c).unfinished = true
    rcases first with h | ⟨_,h⟩ | ⟨_,h⟩ <;> rw [h] <;> simp [State.unfinished]
  | cons d more =>
    simp only [List.all_cons,Bool.and_eq_true] at plain
    have second : step (codeStep stack .operand c) d = ⟨stack,.code .operator⟩ := by
      rcases first with h | ⟨rfl,h⟩ | ⟨double,h⟩ <;> rw [h]
      · exact plainStep stack .operator plain.1
      · have slash : d ≠ '/' := by rintro rfl; exact absurd plain.1 (by decide)
        have star : d ≠ '*' := by simpa using division
        simp only [step,if_neg slash,if_neg star,if_true]
        exact plainStep stack .operator plain.1
      · have other : d ≠ c := by
          rintro rfl
          rcases double with rfl | rfl <;> exact absurd plain.1 (by decide)
        simp only [step,if_neg other]
        exact plainStep stack .operator plain.1
    rw [runCons,runCons]
    show (run (step (codeStep stack .operand c) d) more).unfinished = true
    rw [second,plainKeeps stack plain.2]
    simp [State.unfinished]

/-! ## Every operator -/

theorem operatorWritten {operator : String} (known : operator ∈ operators) (sign : operator ∉ wordOperators) :
    isSigns operator.toList = true := by
  have each : operators.all (fun o => wordOperators.contains o || isSigns o.toList) = true := by decide
  have found := List.all_eq_true.mp each operator known
  simpa [sign] using found

theorem restsWordOperator (stack : List Opening) {operator : String} (word : operator ∈ wordOperators) :
    Rests (run ⟨stack,.code .operand⟩ operator.toList) stack .keyword := by
  simp only [wordOperators,List.mem_cons,List.not_mem_nil,or_false] at word
  rcases word with rfl | rfl
  · exact restsWord stack false "in".toList.reverse
  · exact restsWord stack false "instanceof".toList.reverse

theorem trailingOperatorIff {source : Text} (last : (run .start (trimEnd source)).OperandLast)
    {operator : String} (known : operator ∈ operators) :
    endsInside (source ++ '\n' :: operator.toList) = true ↔
      operator ∉ wordOperators ∨ (run .start (trimEnd source)).stack ≠ [] := by
  have reached := readBehind last operator.toList
  by_cases word : operator ∈ wordOperators
  · have rests := restsWordOperator (run .start (trimEnd source)).stack word
    rw [← reached] at rests
    simp [rests.endsInside,word]
  · have unfinished := signsUnfinished (run .start (trimEnd source)).stack (operatorWritten known word)
    rw [← reached] at unfinished
    simp [insideOfRun unfinished,word]

theorem trailingOperatorBehindTemplate :
    (run .start (trimEnd "f(`a ${ {b: /[(]/g} }`, x++ // (".toList)).OperandLast ∧ ">>>=" ∈ operators ∧
      "instanceof" ∈ operators ∧
      endsInside ("f(`a ${ {b: /[(]/g} }`, x++ // (".toList ++ '\n' :: ">>>=".toList) = true ∧
      endsInside ("f(`a ${ {b: /[(]/g} }`, x++ // (".toList ++ '\n' :: "instanceof".toList) = true := by
  have last : (run .start (trimEnd "f(`a ${ {b: /[(]/g} }`, x++ // (".toList)).OperandLast := by decide
  have sign : ">>>=" ∈ operators := by decide
  have word : "instanceof" ∈ operators := by decide
  exact ⟨last,sign,word,(trailingOperatorIff last sign).mpr (by decide),
    (trailingOperatorIff last word).mpr (by decide)⟩

theorem trailingWordFinished :
    (run .start (trimEnd ['a'])).OperandLast ∧ "in" ∈ operators ∧
      endsInside (['a'] ++ '\n' :: "in".toList) = false := by decide

end ScriptConsole.Continuation
