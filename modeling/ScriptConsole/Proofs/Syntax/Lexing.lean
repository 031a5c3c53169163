import ScriptConsole.Proofs.Syntax.Tokens
import ScriptConsole.Proofs.Text.Blank

/-! What the scan does over one token that holds no other, and over the blanks after it. -/
namespace ScriptConsole.Continuation
open Text (isBlank isWord blankNot blankNotWord wordNot wordNotBlank digitWord)

theorem runAppend (s : State) (a b : Text) : run s (a ++ b) = run (run s a) b := List.foldl_append

theorem runCons (s : State) (c : Char) (t : Text) : run s (c :: t) = run (step s c) t := rfl

/-! ## Characters -/

theorem codeBlank (stack : List Opening) (tail : Tail) {c : Char} (blank : isBlank c = true) :
    codeStep stack tail c = ⟨stack,.code tail⟩ := by
  simp [codeStep,blank]

theorem codeWord (stack : List Opening) (tail : Tail) {c : Char} (word : isWord c = true) :
    codeStep stack tail c = ⟨stack,.word c.isDigit [c]⟩ := by
  have differs (d : Char) (other : isWord d = false) : c ≠ d := wordNot word other
  simp only [codeStep,wordNotBlank word,word,differs '/' (by decide),differs '\'' (by decide),
    differs '"' (by decide),differs '`' (by decide),differs '{' (by decide),
    differs '(' (by decide),differs '[' (by decide),differs '}' (by decide),
    differs ')' (by decide),differs ']' (by decide),differs '+' (by decide),
    differs '-' (by decide),differs ';' (by decide),Bool.false_eq_true,if_false,decide_false,
    Bool.or_self,if_true]
  rfl

/-! ## Blanks after a token -/

/- After a token the scan may still wait for a character that goes on with it. A blank and the brace
that ends a part do not, so there the state is as good as settled. -/
structure Rests (s : State) (stack : List Opening) (tail : Tail) : Prop where
  blank : ∀ c, isBlank c = true → step s c = ⟨stack,.code tail⟩
  brace : step s '}' = codeStep stack tail '}'
  unfinished : s.unfinished = (!stack.isEmpty || tail = .operator)

theorem restsCode (stack : List Opening) (tail : Tail) : Rests ⟨stack,.code tail⟩ stack tail :=
  ⟨fun _ blank => codeBlank stack tail blank,rfl,rfl⟩

theorem wordTailIdle (seen : Text) : wordTail seen ≠ .operator := by
  unfold wordTail
  split <;> simp

theorem restsWord (stack : List Opening) (numeric : Bool) (seen : Text) :
    Rests ⟨stack,.word numeric seen⟩ stack (wordTail seen) where
  blank c blank := by
    have dot : c ≠ '.' := blankNot blank (by decide)
    simp [step,blankNotWord blank,dot,codeBlank _ _ blank]
  brace := by
    have brace : isWord '}' = false := by decide
    simp [step,brace]
  unfinished := by simp [State.unfinished,wordTailIdle]

theorem restsSlash (stack : List Opening) : Rests ⟨stack,.slash .operand⟩ stack .operator where
  blank c blank := by
    have slash : c ≠ '/' := blankNot blank (by decide)
    have star : c ≠ '*' := blankNot blank (by decide)
    simp [step,slash,star,codeBlank _ _ blank]
  brace := by simp [step]
  unfinished := by simp [State.unfinished]

theorem restsSign (stack : List Opening) (tail : Tail) (sign : Sign) :
    Rests ⟨stack,.sign tail sign.val⟩ stack .operator where
  blank c blank := by
    have other : c ≠ sign.val := blankNot blank (by rcases sign.property with h | h <;> rw [h] <;> decide)
    simp [step,other,codeBlank _ _ blank]
  brace := by
    have other : '}' ≠ sign.val := by rcases sign.property with h | h <;> rw [h] <;> decide
    simp [step,other]
  unfinished := by simp [State.unfinished]

theorem restsFlags (stack : List Opening) : Rests ⟨stack,.regexFlags⟩ stack .operand where
  blank c blank := by simp [step,blankNotWord blank,codeBlank _ _ blank]
  brace := by
    have brace : isWord '}' = false := by decide
    simp [step,brace]
  unfinished := by simp [State.unfinished]

theorem runBlanks (stack : List Opening) (tail : Tail) {gap : Text} (blank : gap.all isBlank = true) :
    run ⟨stack,.code tail⟩ gap = ⟨stack,.code tail⟩ := by
  induction gap with
  | nil => rfl
  | cons c rest ih =>
    simp only [List.all_cons,Bool.and_eq_true] at blank
    rw [runCons,(restsCode stack tail).blank c blank.1,ih blank.2]

theorem Rests.settle {s stack tail} (rests : Rests s stack tail) {gap : Text}
    (blank : gap.all isBlank = true) (more : gap ≠ []) : run s gap = ⟨stack,.code tail⟩ := by
  cases gap with
  | nil => exact absurd rfl more
  | cons c rest =>
    simp only [List.all_cons,Bool.and_eq_true] at blank
    rw [runCons,rests.blank c blank.1,runBlanks stack tail blank.2]

theorem Rests.gap {s stack tail} (rests : Rests s stack tail) {gap : Text}
    (blank : gap.all isBlank = true) : Rests (run s gap) stack tail := by
  cases gap with
  | nil => exact rests
  | cons c rest => rw [rests.settle blank (by simp)]; exact restsCode stack tail

/-! ## Words and numbers -/

theorem runWordOn (stack : List Opening) (numeric : Bool) (seen : Text) {body : Text}
    (fits : body.all (fun c => isWord c || (numeric && c = '.')) = true) :
    run ⟨stack,.word numeric seen⟩ body = ⟨stack,.word numeric (body.reverse ++ seen)⟩ := by
  induction body generalizing seen with
  | nil => rfl
  | cons c rest ih =>
    simp only [List.all_cons,Bool.and_eq_true] at fits
    have one : step ⟨stack,.word numeric seen⟩ c = ⟨stack,.word numeric (c :: seen)⟩ := by
      simp only [step,fits.1,if_true]
    rw [runCons,one,ih _ fits.2]
    simp

theorem runWord (stack : List Opening) (last : Tail) (w : Word) :
    run ⟨stack,.code last⟩ w.text = ⟨stack,.word false w.text.reverse⟩ := by
  have head := w.headFits
  simp only [Bool.and_eq_true,Bool.not_eq_true'] at head
  have first : step ⟨stack,.code last⟩ w.head = ⟨stack,.word false [w.head]⟩ := by
    rw [← head.2]
    exact codeWord stack last head.1
  rw [Word.text,runCons,first,runWordOn stack false [w.head] (by simpa using w.bodyFits)]
  simp

theorem digitsOperand (d : Digits) : wordTail d.text.reverse = .operand := by
  have letters : expressionKeywords.all (fun k => !(k.toList.headD 'a').isDigit) = true := by decide
  rw [wordTail,if_neg]
  intro keyword
  have found := List.all_eq_true.mp letters _ (by simpa using keyword)
  simp [Digits.text,d.headFits] at found

theorem codeDigit (stack : List Opening) (tail : Tail) (d : Digits) :
    codeStep stack tail d.head = ⟨stack,.word true [d.head]⟩ := by
  rw [codeWord stack tail (digitWord d.headFits),d.headFits]

theorem restsDigits (stack : List Opening) (s : State) (d : Digits)
    (first : step s d.head = ⟨stack,.word true [d.head]⟩) :
    run s d.text = ⟨stack,.word true d.text.reverse⟩ ∧ Rests (run s d.text) stack .operand := by
  have whole : run s d.text = ⟨stack,.word true d.text.reverse⟩ := by
    rw [Digits.text,runCons,first,runWordOn stack true [d.head] (by simpa using d.bodyFits)]
    simp
  refine ⟨whole,?_⟩
  rw [whole,← digitsOperand d]
  exact restsWord stack true d.text.reverse

theorem Sign.notWord (sign : Sign) : isWord sign.val = false := by
  rcases sign.property with h | h <;> rw [h] <;> decide

theorem Sign.notDot (sign : Sign) : sign.val ≠ '.' := by
  rcases sign.property with h | h <;> rw [h] <;> decide

theorem codeSign (stack : List Opening) (last : Tail) (sign : Sign) :
    codeStep stack last sign.val = ⟨stack,.sign last sign.val⟩ := by
  rcases sign.property with h | h <;> rw [h] <;> rfl

theorem restsNumber (stack : List Opening) (last : Tail) (n : Number) :
    Rests (run ⟨stack,.code last⟩ n.text) stack .operand := by
  have start : ∃ tail, run ⟨stack,.code last⟩ (if n.dotted then ['.'] else []) = ⟨stack,.code tail⟩ := by
    cases n.dotted
    · exact ⟨last,rfl⟩
    · exact ⟨.operator,rfl⟩
  obtain ⟨tail,started⟩ := start
  obtain ⟨whole,rests⟩ := restsDigits stack ⟨stack,.code tail⟩ n.digits (codeDigit stack tail n.digits)
  rw [Number.text,runAppend,runAppend,started]
  cases n.exponent with
  | none => exact rests
  | some exponent =>
    obtain ⟨sign,digits⟩ := exponent
    have signed : step ⟨stack,.word true n.digits.text.reverse⟩ sign.val = ⟨stack,.sign .operand sign.val⟩ := by
      simp [step,sign.notWord,sign.notDot,digitsOperand,codeSign]
    have other : digits.head ≠ sign.val := wordNot (digitWord digits.headFits) sign.notWord
    have first : step ⟨stack,.sign .operand sign.val⟩ digits.head = ⟨stack,.word true [digits.head]⟩ := by
      simp [step,other,codeDigit]
    rw [whole,runCons,signed]
    exact (restsDigits stack _ digits first).2

/-! ## Literals and comments -/

theorem Piece.plainFits {stops : List Char} {c : Char} (fits : (Piece.plain c).fits stops = true) :
    c ≠ '\\' ∧ ∀ d ∈ stops, c ≠ d := by
  simp only [Piece.fits,Bool.and_eq_true,bne_iff_ne,Bool.not_eq_true',List.contains_eq_mem,
    decide_eq_false_iff_not] at fits
  exact ⟨fits.1,fun d stop same => fits.2 (same ▸ stop)⟩

theorem runPieces {s : State} {stops : List Char}
    (one : ∀ p : Piece, p.fits stops = true → run s p.text = s) {pieces : List Piece}
    (fit : pieces.all (Piece.fits stops) = true) : run s (spell pieces) = s := by
  induction pieces with
  | nil => rfl
  | cons p rest ih =>
    simp only [List.all_cons,Bool.and_eq_true] at fit
    have whole : spell (p :: rest) = p.text ++ spell rest := by simp [spell]
    rw [whole,runAppend,one p fit.1,ih fit.2]

theorem runQuotedStart (stack : List Opening) (last : Tail) (q : Quoted) :
    run ⟨stack,.code last⟩ q.start = ⟨stack,.quoted q.quote false⟩ := by
  have first : step ⟨stack,.code last⟩ q.quote = ⟨stack,.quoted q.quote false⟩ := by
    rcases q.quoteFits with h | h <;> rw [h] <;> rfl
  rw [Quoted.start,runCons,first]
  refine runPieces ?_ q.piecesFit
  intro p fits
  cases p with
  | plain c =>
    obtain ⟨backslash,stops⟩ := Piece.plainFits fits
    simp [Piece.text,run,step,backslash,stops q.quote (by simp),stops '\n' (by simp)]
  | escaped c => simp [Piece.text,run,step]

theorem runQuoted (stack : List Opening) (last : Tail) (q : Quoted) :
    run ⟨stack,.code last⟩ q.text = ⟨stack,.code .operand⟩ := by
  rw [Quoted.text,runAppend,runQuotedStart]
  rcases q.quoteFits with h | h <;> rw [h] <;> rfl

theorem runRemarkOn (stack : List Opening) (last : Tail) (star : Bool) {body : Text}
    (fits : ¬ ['*','/'] <:+: body) (start : star = true → body.head? ≠ some '/') :
    ∃ ended, run ⟨stack,.blockComment last star⟩ body = ⟨stack,.blockComment last ended⟩ := by
  induction body generalizing star with
  | nil => exact ⟨star,rfl⟩
  | cons c rest ih =>
    have one : step ⟨stack,.blockComment last star⟩ c = ⟨stack,.blockComment last (c = '*')⟩ := by
      have goesOn : ¬ (star = true ∧ c = '/') := fun both => start both.1 (by simp [both.2])
      simp [step,goesOn]
    have later : ¬ ['*','/'] <:+: rest := fun found => fits (List.infix_cons found)
    rw [runCons,one]
    refine ih _ later ?_
    intro isStar slash
    have star : c = '*' := by simpa using isStar
    obtain ⟨more,rfl⟩ : ∃ more, rest = '/' :: more := by
      cases rest with
      | nil => simp at slash
      | cons d more => exact ⟨more,by simpa using slash⟩
    exact fits ⟨[],more,by simp [star]⟩

theorem runRemarkStart (stack : List Opening) (last : Tail) (r : Remark) :
    ∃ ended, run ⟨stack,.code last⟩ r.start = ⟨stack,.blockComment last ended⟩ := by
  obtain ⟨ended,whole⟩ := runRemarkOn stack last false r.bodyFits (by simp)
  exact ⟨ended,whole⟩

theorem runRemark (stack : List Opening) (last : Tail) (r : Remark) :
    run ⟨stack,.code last⟩ r.text = ⟨stack,.code last⟩ := by
  obtain ⟨ended,started⟩ := runRemarkStart stack last r
  rw [Remark.text,runAppend,started]
  cases ended <;> rfl

theorem runNote (stack : List Opening) (last : Tail) (n : Note) :
    run ⟨stack,.code last⟩ n.text = ⟨stack,.code last⟩ := by
  have body : ∀ t : Text, '\n' ∉ t → run ⟨stack,.lineComment last⟩ t = ⟨stack,.lineComment last⟩ := by
    intro t none
    induction t with
    | nil => rfl
    | cons c rest ih =>
      have other : c ≠ '\n' := fun same => none (by simp [same])
      have one : step ⟨stack,.lineComment last⟩ c = ⟨stack,.lineComment last⟩ := by simp [step,other]
      rw [runCons,one,ih (fun found => none (by simp [found]))]
  have start : run ⟨stack,.code last⟩ ['/','/'] = ⟨stack,.lineComment last⟩ := rfl
  have parts : n.text = ['/','/'] ++ (n.body ++ ['\n']) := rfl
  rw [parts,runAppend,start,runAppend,body n.body n.bodyFits]
  rfl

theorem runAtom (stack : List Opening) {a : Atom} (fits : a.fits = true) :
    run ⟨stack,.regex false false⟩ a.text = ⟨stack,.regex false false⟩ := by
  cases a with
  | piece p =>
    cases p with
    | plain c =>
      obtain ⟨backslash,stops⟩ := Piece.plainFits fits
      by_cases close : c = ']' <;>
        simp [Atom.text,Piece.text,run,step,regexStep,backslash,close,stops '/' (by simp),
          stops '[' (by simp),stops '\n' (by simp)]
    | escaped c => simp [Atom.text,Piece.text,run,step,regexStep]
  | among pieces =>
    have inside : run ⟨stack,.regex true false⟩ (spell pieces) = ⟨stack,.regex true false⟩ := by
      refine runPieces ?_ fits
      intro p fits
      cases p with
      | plain c =>
        obtain ⟨backslash,stops⟩ := Piece.plainFits fits
        simp [Piece.text,run,step,regexStep,backslash,stops ']' (by simp),stops '\n' (by simp)]
      | escaped c => simp [Piece.text,run,step,regexStep]
    have opened : step ⟨stack,.regex false false⟩ '[' = ⟨stack,.regex true false⟩ := rfl
    rw [Atom.text,List.cons_append,runCons,opened,runAppend,inside]
    rfl

theorem runAtoms (stack : List Opening) {atoms : List Atom} (fit : atoms.all Atom.fits = true) :
    run ⟨stack,.regex false false⟩ (atoms.flatMap Atom.text) = ⟨stack,.regex false false⟩ := by
  induction atoms with
  | nil => rfl
  | cons a rest ih =>
    simp only [List.all_cons,Bool.and_eq_true] at fit
    rw [List.flatMap_cons,runAppend,runAtom stack fit.1,ih fit.2]

theorem runFlags (stack : List Opening) {flags : Text} (fit : flags.all isWord = true) :
    run ⟨stack,.regexFlags⟩ flags = ⟨stack,.regexFlags⟩ := by
  induction flags with
  | nil => rfl
  | cons c rest ih =>
    simp only [List.all_cons,Bool.and_eq_true] at fit
    have one : step ⟨stack,.regexFlags⟩ c = ⟨stack,.regexFlags⟩ := by simp [step,fit.1]
    rw [runCons,one,ih fit.2]

/- The slash before an expression is read as one that may still open a comment, until the first
character of the regular expression. -/
theorem runFirstAtom (stack : List Opening) {last : Tail} (place : last ≠ .operand) (r : Regex) :
    run ⟨stack,.slash last⟩ r.first.text = ⟨stack,.regex false false⟩ := by
  obtain ⟨c,more,parts⟩ : ∃ c more, r.first.text = c :: more := by
    cases r.first with
    | piece p => cases p <;> exact ⟨_,_,rfl⟩
    | among pieces => exact ⟨_,_,rfl⟩
  have star : c ≠ '*' := fun same => r.firstOpens (by simp [parts,same])
  have slash : c ≠ '/' := by
    intro same
    have fits := r.firstFits
    cases shape : r.first with
    | piece p =>
      cases p with
      | plain d =>
        rw [shape] at fits parts
        have other := (Piece.plainFits fits).2 '/' (by simp)
        simp [Atom.text,Piece.text] at parts
        exact other (parts.1.trans same)
      | escaped d => rw [shape] at parts; simp [Atom.text,Piece.text,same] at parts
    | among pieces => rw [shape] at parts; simp [Atom.text,same] at parts
  have early : step ⟨stack,.slash last⟩ c = step ⟨stack,.regex false false⟩ c := by
    simp [step,slash,star,place]
  have whole := runAtom stack r.firstFits
  rw [parts,runCons] at whole
  rw [parts,runCons,early,whole]

theorem restsRegex (stack : List Opening) {last : Tail} (place : last ≠ .operand) (r : Regex) :
    Rests (run ⟨stack,.code last⟩ r.text) stack .operand := by
  have opened : step ⟨stack,.code last⟩ '/' = ⟨stack,.slash last⟩ := rfl
  have closed : step ⟨stack,.regex false false⟩ '/' = ⟨stack,.regexFlags⟩ := rfl
  rw [Regex.text,runCons,opened,runAppend,runFirstAtom stack place r,runAppend,
    runAtoms stack r.moreFit,runCons,closed,runFlags stack r.flagsFit]
  exact restsFlags stack

/-! ## Operators -/

theorem runTwice (stack : List Opening) (last : Tail) (sign : Sign) :
    run ⟨stack,.code last⟩ [sign.val,sign.val] = ⟨stack,.code (stepTail last)⟩ := by
  have first : step ⟨stack,.code last⟩ sign.val = ⟨stack,.sign last sign.val⟩ := codeSign stack last sign
  rw [runCons,first]
  simp [run,step]

theorem codePlain (stack : List Opening) (last : Tail) (o : Operator) (plain : o.char ∉ ['/','+','-']) :
    codeStep stack last o.char = ⟨stack,.code .operator⟩ := by
  have other := o.notOther
  simp only [List.mem_cons,List.not_mem_nil,or_false,not_or] at other plain
  simp [codeStep,o.notBlank,o.notWord,plain,other]

theorem restsOperator (stack : List Opening) {last : Tail} (o : Operator)
    (place : o.char = '/' → last = .operand) :
    Rests (run ⟨stack,.code last⟩ [o.char]) stack .operator := by
  show Rests (codeStep stack last o.char) stack .operator
  by_cases sign : o.char = '+' ∨ o.char = '-'
  · rw [codeSign stack last ⟨o.char,sign⟩]
    exact restsSign stack last ⟨o.char,sign⟩
  · by_cases slash : o.char = '/'
    · have slashed : codeStep stack last o.char = ⟨stack,.slash .operand⟩ := by rw [slash,place slash]; rfl
      rw [slashed]
      exact restsSlash stack
    · rw [codePlain stack last o (by simp [slash,not_or.mp sign])]
      exact restsCode stack .operator

end ScriptConsole.Continuation
