import ScriptConsole.Proofs.Syntax.Trimming

/-! The scan of script text that is written in tokens: it follows the brackets and the last
significant token, through templates nested to any depth. -/
namespace ScriptConsole.Continuation
open Text (isBlank)

/-! ## Rows of tokens -/

inductive Ground : List Opening → Prop
  | top : Ground []
  | part (outer : List Opening) : Ground (.substitution :: .template :: outer)

def stackOn (base : List Opening) (opened : List Bracket) : List Opening :=
  opened.map Bracket.opening ++ base

/- A line comment ends with its newline, any other token only with what stands behind it. -/
def Settled (apart : Bool) (s : State) (stack : List Opening) (tail : Tail) : Prop :=
  if apart then Rests s stack tail else s = ⟨stack,.code tail⟩

/- What the scan makes of a text whose brackets have the outcome. A brace that finds no bracket open
is the concern of the template around the row, where there is one. -/
def Outcome.Seen (base : List Opening) (s : State) (t : Text) (fine : List Opening → Prop) :
    Outcome → Prop
  | .reached opened => fine (stackOn base opened)
  | .mismatched => Spoils s t
  | .left => base = [] → Spoils s t

structure Row.Ends (row : Row) (last : Tail) (apart : Bool) (s : State) (stack : List Opening) : Prop where
  rests : Rests s stack (row.last last)
  settled : row.parts apart = true → s = ⟨stack,.code (row.last last)⟩

theorem Settled.rests {apart s stack tail} (settled : Settled apart s stack tail) :
    Rests s stack tail := by
  cases apart with
  | true => exact settled
  | false => rw [show s = ⟨stack,.code tail⟩ from settled]; exact restsCode stack tail

theorem Settled.gap {apart s stack tail} (settled : Settled apart s stack tail) {gap : Text}
    (fits : gapFits apart gap = true) : run s gap = ⟨stack,.code tail⟩ := by
  simp only [gapFits,Bool.and_eq_true] at fits
  cases apart with
  | true => exact Rests.settle settled fits.1 (by simpa using fits.2)
  | false =>
    rw [show s = ⟨stack,.code tail⟩ from settled]
    exact runBlanks stack tail fits.1

theorem afterCloserOn {base : List Opening} (ground : Ground base) (opened : List Bracket) :
    afterCloser (stackOn base opened) = .code .operand := by
  cases opened with
  | nil => cases ground <;> rfl
  | cons top rest => cases top <;> rfl

theorem spoilsAt {s : State} {c : Char} (content : isBlank c = false)
    (wrong : (step s c).mode = .wrong) : Spoils s [c] :=
  ⟨[],c,[],rfl,content,wrong⟩

def Reads (matched : Bool) (s : State) (t : Text) (fine : State → Prop) : Prop :=
  if matched then fine (run s t) else Spoils s t

theorem Reads.imp {matched s t fine fine'} (weaker : ∀ s', fine s' → fine' s')
    (reads : Reads matched s t fine) : Reads matched s t fine' := by
  cases matched with
  | true => exact weaker _ reads
  | false => exact reads

theorem Reads.begins {matched s s' front t fine} (ran : run s front = s')
    (reads : Reads matched s' t fine) : Reads matched s (front ++ t) fine := by
  subst ran
  cases matched with
  | true => simpa only [Reads,if_true,runAppend] using reads
  | false => exact Spoils.after reads

theorem Reads.ends {matched s t more fine fine'} (reads : Reads matched s t fine)
    (last : ∀ s', fine s' → fine' (run s' more)) : Reads matched s (t ++ more) fine' := by
  cases matched with
  | true => simpa only [Reads,if_true,runAppend] using last _ reads
  | false => exact Spoils.before reads more

theorem Reads.followed {matched matched' s t more fine fine'} (reads : Reads matched s t fine)
    (next : ∀ s', fine s' → Reads matched' s' more fine') :
    Reads (matched && matched') s (t ++ more) fine' := by
  cases matched with
  | true => exact Reads.begins rfl (next _ reads)
  | false => exact Spoils.before reads more

theorem seenCloser {base : List Opening} (ground : Ground base) (opened : List Bracket) (last : Tail)
    (b : Bracket) : (b.match opened).Seen base ⟨stackOn base opened,.code last⟩ [b.closes]
      (run ⟨stackOn base opened,.code last⟩ [b.closes] = ⟨·,.code .operand⟩) := by
  have content : isBlank b.closes = false := by cases b <;> rfl
  cases opened with
  | nil =>
    cases b with
    | brace => rintro rfl; exact spoilsAt content rfl
    | paren | bracket => cases ground <;> exact spoilsAt content rfl
  | cons top rest =>
    by_cases same : top = b
    · subst same
      have closed : run ⟨stackOn base (top :: rest),.code last⟩ [top.closes] =
          ⟨stackOn base rest,afterCloser (stackOn base rest)⟩ := by cases top <;> rfl
      rw [Bracket.match,if_pos rfl]
      exact closed.trans (by rw [afterCloserOn ground])
    · have wrong : (step ⟨stackOn base (top :: rest),.code last⟩ b.closes).mode = .wrong := by
        cases top <;> cases b <;> first | rfl | exact absurd rfl same
      rw [Bracket.match,if_neg same]
      exact spoilsAt content wrong

theorem Outcome.Seen.after {o : Outcome} {base s front t fine} (seen : o.Seen base (run s front) t fine) :
    o.Seen base s (front ++ t) fine := by
  cases o with
  | reached opened => exact seen
  | mismatched => exact Spoils.after seen
  | left => exact fun empty => Spoils.after (seen empty)

theorem Outcome.Seen.imp {o : Outcome} {base s t fine fine'} (weaker : ∀ stack, fine stack → fine' stack)
    (seen : o.Seen base s t fine) : o.Seen base s t fine' := by
  cases o with
  | reached opened => exact weaker _ seen
  | mismatched | left => exact seen

theorem partClosed {s : State} {stack : List Opening} {held : Row}
    (inside : (held.brackets []).inside = true)
    (seen : (held.brackets []).Seen (.substitution :: .template :: stack) s held.text
      (held.Ends .start false (run s held.text))) :
    Reads (held.brackets [] = .reached []) s (held.text ++ ['}'])
      (· = ⟨.template :: stack,.template false false⟩) := by
  cases outcome : held.brackets [] with
  | reached opened =>
    rw [outcome] at seen inside
    have closed : run s (held.text ++ ['}']) =
        codeStep (stackOn (.substitution :: .template :: stack) opened) (held.last .start) '}' := by
      rw [runAppend]
      exact seen.rests.brace
    cases opened with
    | nil => exact closed
    | cons top rest =>
      have wrong : (run s (held.text ++ ['}'])).mode = .wrong := by
        rw [closed]
        cases top with
        | brace => simp [Outcome.inside] at inside
        | paren | bracket => rfl
      exact ⟨held.text,'}',[],rfl,rfl,wrong⟩
  | mismatched =>
    rw [outcome] at seen
    exact Spoils.before seen _
  | left => simp [outcome,Outcome.inside] at inside

theorem seenNext {base : List Opening} {opened last apart s gap} {token : Token} {rest : Row}
    (settled : Settled apart s (stackOn base opened) last) (gapFit : gapFits apart gap = true)
    (one : (token.brackets opened).Seen base ⟨stackOn base opened,.code last⟩ token.text fun stack =>
      Settled token.apart (run ⟨stackOn base opened,.code last⟩ token.text) stack (token.after last))
    (more : ∀ now s', Settled token.apart s' (stackOn base now) (token.after last) →
      (rest.brackets now).Seen base s' rest.text
        (rest.Ends (token.after last) token.apart (run s' rest.text))) :
    ((Row.next gap token rest).brackets opened).Seen base s (Row.next gap token rest).text
      ((Row.next gap token rest).Ends last apart (run s (Row.next gap token rest).text)) := by
  have started := settled.gap gapFit
  have whole : run s (Row.next gap token rest).text =
      run (run ⟨stackOn base opened,.code last⟩ token.text) rest.text := by
    rw [Row.text,runAppend,runAppend,started]
  have ends (s' : State) (stack : List Opening) (e : rest.Ends (token.after last) token.apart s' stack) :
      (Row.next gap token rest).Ends last apart s' stack := ⟨e.rests,e.settled⟩
  rw [whole,Row.text]
  refine Outcome.Seen.after ?_
  rw [started,Row.brackets]
  cases outcome : token.brackets opened with
  | reached now =>
    rw [outcome] at one
    exact ((more now _ one).imp (ends _)).after
  | mismatched => rw [outcome] at one; exact Spoils.before one _
  | left => rw [outcome] at one; exact fun empty => Spoils.before (one empty) _

theorem wordAfter (stack : List Opening) (last : Tail) (w : Word) :
    Rests (run ⟨stack,.code last⟩ w.text) stack ((Token.word w).after last) := by
  have tail : (Token.word w).after last = wordTail w.text.reverse := by
    simp only [Token.after,wordTail,List.reverse_reverse]
  rw [runWord,tail]
  exact restsWord stack false w.text.reverse

def InTemplate (stack : List Opening) (s : State) : Prop :=
  ∃ dollar, s = ⟨.template :: stack,.template false dollar⟩

def Chunks.Seen (chunks : Chunks) (stack : List Opening) (dollar : Bool) : Prop :=
  Reads chunks.matched ⟨.template :: stack,.template false dollar⟩ chunks.text (InTemplate stack)

theorem seenOpen {stack : List Opening} {chunks : Chunks} (last : Tail)
    (seen : chunks.Seen stack false) : Reads chunks.matched ⟨stack,.code last⟩ ('`' :: chunks.text) (InTemplate stack) := by
  have start : run ⟨stack,.code last⟩ ['`'] = ⟨.template :: stack,.template false false⟩ := rfl
  exact Reads.begins start seen

theorem seenTemplate {base : List Opening} {opened : List Bracket} {last : Tail} {chunks : Chunks}
    (seen : chunks.Seen (stackOn base opened) false) :
    ((Token.template chunks).brackets opened).Seen base ⟨stackOn base opened,.code last⟩
      (Token.template chunks).text
      (run ⟨stackOn base opened,.code last⟩ (Token.template chunks).text = ⟨·,.code .operand⟩) := by
  have closes (s : State) (inside : InTemplate (stackOn base opened) s) :
      run s ['`'] = ⟨stackOn base opened,.code .operand⟩ := by
    obtain ⟨dollar,same⟩ := inside
    rw [same]
    rfl
  have reads : Reads chunks.matched ⟨stackOn base opened,.code last⟩ (Token.template chunks).text
      (· = ⟨stackOn base opened,.code .operand⟩) := (seenOpen last seen).ends closes
  rw [Token.brackets]
  cases matched : chunks.matched with
  | true | false => rw [matched] at reads; exact reads

theorem seenPiece {stack : List Opening} {dollar : Bool} {p : Piece} {rest : Chunks}
    (fits : (Chunks.piece p rest).fits dollar = true)
    (more : ∀ ended, rest.fits ended = true → rest.Seen stack ended) :
    (Chunks.piece p rest).Seen stack dollar := by
  have one : ∃ ended, rest.fits ended = true ∧ run ⟨.template :: stack,.template false dollar⟩ p.text =
      ⟨.template :: stack,.template false ended⟩ := by
    cases p with
    | plain c =>
      simp only [Chunks.fits,Bool.and_eq_true,bne_iff_ne,Bool.not_eq_true'] at fits
      refine ⟨c = '$',fits.2,?_⟩
      have goesOn : ¬ (c = '{' ∧ dollar = true) := by
        rintro ⟨rfl,rfl⟩
        simp at fits
      simp [Piece.text,run,step,templateStep,fits.1.1.1,fits.1.1.2,goesOn]
    | escaped c => exact ⟨false,fits,by simp [Piece.text,run,step,templateStep]⟩
  obtain ⟨ended,restFits,ran⟩ := one
  exact Reads.begins ran (more ended restFits)

theorem seenPart {stack : List Opening} {dollar : Bool} {held : Row} {rest : Chunks}
    (inside : (held.brackets []).inside = true)
    (inner : (held.brackets []).Seen (.substitution :: .template :: stack)
      ⟨.substitution :: .template :: stack,.code .start⟩ held.text
      (held.Ends .start false (run ⟨.substitution :: .template :: stack,.code .start⟩ held.text)))
    (later : rest.Seen stack false) : (Chunks.part held rest).Seen stack dollar := by
  have start : run ⟨.template :: stack,.template false dollar⟩ ['$','{'] =
      ⟨.substitution :: .template :: stack,.code .start⟩ := rfl
  have parts : (Chunks.part held rest).text = ['$','{'] ++ ((held.text ++ ['}']) ++ rest.text) := by
    simp [Chunks.text]
  unfold Chunks.Seen
  rw [Chunks.matched,parts]
  exact Reads.begins start ((partClosed inside inner).followed fun s' same => same ▸ later)

theorem restsAt {s : State} {t : Text} {stack : List Opening} {tail : Tail}
    (ran : run s t = ⟨stack,.code tail⟩) : Rests (run s t) stack tail :=
  ran ▸ restsCode stack tail

mutual

theorem seenToken {base : List Opening} (ground : Ground base) (opened : List Bracket) (last : Tail)
    (token : Token) (fits : token.fits last = true) :
    (token.brackets opened).Seen base ⟨stackOn base opened,.code last⟩ token.text fun stack =>
      Settled token.apart (run ⟨stackOn base opened,.code last⟩ token.text) stack (token.after last) := by
  cases token with
  | word w => exact wordAfter (stackOn base opened) last w
  | number n => exact restsNumber (stackOn base opened) last n
  | quoted q => exact restsAt (runQuoted (stackOn base opened) last q)
  | template chunks =>
    exact (seenTemplate (seenChunks (stackOn base opened) chunks false fits)).imp fun _ => restsAt
  | remark r => exact restsAt (runRemark (stackOn base opened) last r)
  | note n => exact runNote (stackOn base opened) last n
  | regex r => exact restsRegex (stackOn base opened) (by simpa [Token.fits] using fits) r
  | opener b =>
    have ran : run ⟨stackOn base opened,.code last⟩ [b.opens] = ⟨stackOn base (b :: opened),.code .start⟩ := by
      cases b <;> rfl
    exact restsAt ran
  | closer b => exact (seenCloser ground opened last b).imp fun _ => restsAt
  | semicolon => exact restsCode _ _
  | twice sign => exact restsAt (runTwice (stackOn base opened) last sign)
  | operator o =>
    refine restsOperator (stackOn base opened) o ?_
    intro slash
    simpa [Token.fits,slash] using fits

theorem seenChunks (stack : List Opening) (chunks : Chunks) (dollar : Bool)
    (fits : chunks.fits dollar = true) : chunks.Seen stack dollar := by
  cases chunks with
  | done => exact ⟨dollar,rfl⟩
  | piece p rest => exact seenPiece fits fun ended restFits => seenChunks stack rest ended restFits
  | part held rest =>
    simp only [Chunks.fits,Bool.and_eq_true] at fits
    exact seenPart fits.1.2 (seenRow (.part stack) held [] .start false _ fits.1.1 rfl)
      (seenChunks stack rest false fits.2)

theorem seenRow {base : List Opening} (ground : Ground base) (row : Row) (opened : List Bracket)
    (last : Tail) (apart : Bool) (s : State) (fits : row.fits last apart = true)
    (settled : Settled apart s (stackOn base opened) last) :
    (row.brackets opened).Seen base s row.text (row.Ends last apart (run s row.text)) := by
  cases row with
  | done gap =>
    refine ⟨settled.rests.gap fits,fun parts => settled.gap ?_⟩
    simp only [gapFits,Bool.and_eq_true]
    exact ⟨fits,parts⟩
  | next gap token rest =>
    simp only [Row.fits,Bool.and_eq_true] at fits
    refine seenNext settled fits.1.1 (seenToken ground opened last token fits.1.2) ?_
    intro now s' settled
    exact seenRow ground rest now (token.after last) token.apart s' fits.2 settled

end

/-! ## Endings inside a construct -/

theorem runEscapeMark {s : State} {escaping : Bool} (unfinished : s.unfinished = true)
    (escapes : (step s '\\').unfinished = true) : (run s (escapeMark escaping)).unfinished = true := by
  cases escaping with
  | false => exact unfinished
  | true => exact escapes

theorem seenHeld {stack : List Opening} {held : Row} (fits : held.fits .start false = true)
    (stays : held.brackets [] ≠ .left) :
    Reads (held.brackets []).isReached ⟨.substitution :: .template :: stack,.code .start⟩ held.text
      fun s => ∃ opened, held.Ends .start false s (stackOn (.substitution :: .template :: stack) opened) := by
  have seen := seenRow (.part stack) held [] .start false _ fits rfl
  cases outcome : held.brackets [] with
  | reached opened => rw [outcome] at seen; exact ⟨opened,seen⟩
  | mismatched => rw [outcome] at seen; exact seen
  | left => exact absurd outcome stays

theorem seenOpenPart {chunks : Chunks} {held : Row} (fits : openFits chunks held = true)
    (stack : List Opening) (last : Tail) :
    Reads (chunks.matched && (held.brackets []).isReached) ⟨stack,.code last⟩
      ('`' :: (chunks.text ++ '$' :: '{' :: held.text))
      fun s => ∃ opened, held.Ends .start false s (stackOn (.substitution :: .template :: stack) opened) := by
  simp only [openFits,Bool.and_eq_true,bne_iff_ne] at fits
  have start := seenOpen last (seenChunks stack chunks false fits.1.1)
  have next (s : State) (inside : InTemplate stack s) :
      Reads (held.brackets []).isReached s (['$','{'] ++ held.text)
        fun s => ∃ opened, held.Ends .start false s (stackOn (.substitution :: .template :: stack) opened) := by
    obtain ⟨dollar,rfl⟩ := inside
    exact Reads.begins rfl (seenHeld fits.1.2 fits.2)
  exact start.followed next

theorem seenCut (cut : Cut) (fits : cut.fits = true) (stack : List Opening) (last : Tail) :
    Reads cut.matched ⟨stack,.code last⟩ cut.text fun s => s.unfinished = true := by
  induction cut generalizing stack last with
  | remark r =>
    obtain ⟨ended,ran⟩ := runRemarkStart stack last r
    show (run _ r.start).unfinished = true
    rw [ran]
    rfl
  | quoted q escaping =>
    show (run _ (q.start ++ escapeMark escaping)).unfinished = true
    rw [runAppend,runQuotedStart]
    exact runEscapeMark rfl (by simp [step,State.unfinished])
  | template chunks escaping =>
    refine (seenOpen last (seenChunks stack chunks false fits)).ends fun s inside => ?_
    obtain ⟨dollar,rfl⟩ := inside
    exact runEscapeMark rfl (by simp [step,templateStep,State.unfinished])
  | part chunks held =>
    refine (seenOpenPart fits stack last).imp fun s inside => ?_
    obtain ⟨opened,ends⟩ := inside
    rw [ends.rests.unfinished]
    simp [stackOn]
  | within chunks held inner ih =>
    simp only [Cut.fits,Bool.and_eq_true] at fits
    have parts : (Cut.within chunks held inner).text =
        ('`' :: (chunks.text ++ '$' :: '{' :: held.text)) ++ inner.text := by simp [Cut.text]
    rw [parts,Cut.matched]
    refine (seenOpenPart fits.1.1 stack last).followed fun s inside => ?_
    obtain ⟨opened,ends⟩ := inside
    rw [ends.settled fits.1.2]
    exact ih fits.2 _ _

/- What the scan of a row says: a closer that matches nothing decides at once, else the brackets
still open and the last token do; and an unclosed construct behind the row keeps it open. -/
theorem scanFollowsTokens (row : Row) (fits : row.fits .start false = true) :
    (∀ opened, row.brackets [] = .reached opened →
      (endsInside row.text = true ↔ opened ≠ [] ∨ row.last .start = .operator) ∧
      ∀ cut : Cut, cut.fits = true → row.parts false = true →
        (cut.matched = true → endsInside (row.text ++ cut.text) = true) ∧
        (cut.matched = false → ∀ rest, endsInside (row.text ++ cut.text ++ rest) = false)) ∧
    ((∀ opened, row.brackets [] ≠ .reached opened) →
      ∀ rest, endsInside (row.text ++ rest) = false) := by
  have seen := seenRow .top row [] .start false .start fits rfl
  constructor
  · intro opened reached
    rw [reached] at seen
    have answer := seen.rests.endsInside
    refine ⟨?_,?_⟩
    · rw [answer]
      simp [stackOn]
    intro cut cutFits parts
    have settled := seen.settled parts
    have cutSeen := seenCut cut cutFits (stackOn [] opened) (row.last .start)
    refine ⟨?_,?_⟩
    · intro matched
      rw [Reads,if_pos matched,← settled,← runAppend] at cutSeen
      exact insideOfRun cutSeen
    · intro mismatched rest
      rw [Reads,if_neg (by simp [mismatched]),← settled] at cutSeen
      exact (cutSeen.after.before rest).endsInside
  · intro stopped rest
    cases outcome : row.brackets [] with
    | reached opened => exact absurd outcome (stopped opened)
    | mismatched =>
      rw [outcome] at seen
      exact (Spoils.before seen rest).endsInside
    | left =>
      rw [outcome] at seen
      exact (Spoils.before (seen rfl) rest).endsInside

def sampleWord (c : Char) (fits : (Text.isWord c && !c.isDigit) = true) : Token := .word ⟨c,[],fits,rfl⟩

def samplePlus : Token := .operator ⟨'+',rfl,rfl,by decide⟩

def sampleRow : Row :=
  let one : Row := .next [] (.number ⟨false,⟨'1',[],rfl,rfl⟩,none⟩) (.done [])
  let inner : Chunks := .piece (.plain '$') (.part one .done)
  let held : Row := .next [] (.opener .bracket) (.next [' '] (.template inner)
    (.next [' '] (.closer .bracket) (.done [])))
  .next [] (sampleWord 'f' rfl) (.next [' '] (.opener .paren) (.next [' ']
    (.template (.piece (.plain 'a') (.part held .done))) (.next ['\n'] samplePlus (.done [' ']))))

def sampleCut : Cut :=
  .within .done (.next [] (.opener .brace) (.done [' '])) (.quoted ⟨'"',[.escaped '"'],.inr rfl,rfl⟩ false)

theorem sampleInside :
    sampleRow.fits .start false = true ∧
    sampleRow.text = "f ( `a$\x7b[ `$$\x7b1\x7d` ]\x7d`\n+ ".toList ∧ endsInside sampleRow.text = true ∧
    sampleCut.text = "`$\x7b\x7b \"\\\"".toList ∧ endsInside (sampleRow.text ++ sampleCut.text) = true := by
  have scan := (scanFollowsTokens sampleRow rfl).1 [.paren] rfl
  refine ⟨rfl,by decide,scan.1.mpr (.inl (by simp)),by decide,?_⟩
  exact (scan.2 sampleCut rfl rfl).1 rfl

end ScriptConsole.Continuation
