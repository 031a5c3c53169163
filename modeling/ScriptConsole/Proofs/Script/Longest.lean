import ScriptConsole.Proofs.Script.Lexis

/-!
Where a token and a gap end. A token that was read once is read again before another text exactly if it
does not grow into that text, and how it may grow shows in the state that reading it has led to. -/
namespace ScriptConsole.Script

namespace Lexis

section reading

variable {lexis : Lexis} {slashOpens : Bool} {state : State} {token more rest : Text}

theorem scanMore (scanned : lexis.scan slashOpens token = some state) :
    lexis.scan slashOpens (token ++ more) = more.foldlM (State.step lexis) state := by
  cases token with
  | nil => nomatch scanned
  | cons c token =>
    simp only [scan,List.cons_append,List.foldlM_append,Option.bind_eq_bind,← Option.bind_assoc] at scanned ⊢
    rw [scanned]
    rfl

theorem scanNonempty (scanned : lexis.scan slashOpens token = some state) : token ≠ [] := by
  rintro rfl
  nomatch scanned

theorem scanUnticked (scanned : lexis.scan slashOpens token = some state) :
    ∃ c rest, token = c :: rest ∧ c ≠ '\x60' := by
  cases token with
  | nil => nomatch scanned
  | cons c token =>
    refine ⟨c,token,rfl,?_⟩
    rintro rfl
    nomatch scanned

theorem scanTemplate (scanned : lexis.scan slashOpens token = some state) : ¬ lexis.template (token ++ more) := by
  obtain ⟨c,rest,rfl,other⟩ := scanUnticked scanned
  exact fun template => other (Option.some.inj (lexis.ticked template))

theorem scanFits (scanned : lexis.scan slashOpens token = some state) :
    lexis.Fits slashOpens token rest ↔ state.Holds rest := by
  constructor
  · rintro (template | ⟨other,same,holds⟩)
    · exact absurd ((List.append_nil token).symm ▸ template) (scanTemplate scanned)
    · cases scanned.symm.trans same
      exact holds
  · exact fun holds => .inr ⟨state,scanned,holds⟩

theorem markStep {c : Char} {text : Text} (stepped : state.step lexis c = some (.mark text)) :
    ∃ before, state = .mark before ∧ text = before ++ [c] := by
  cases state with
  | mark before =>
    rw [State.step] at stepped
    split at stepped
    · cases stepped
    · split at stepped
      · exact ⟨before,rfl,(State.mark.inj (Option.some.inj stepped)).symm⟩
      · cases stepped
  | _ => simp [State.step] at stepped

theorem markRun {text : Text} (run : more.foldlM (State.step lexis) state = some (.mark text)) :
    ∃ before, state = .mark before ∧ text = before ++ more := by
  induction more generalizing state with
  | nil => exact ⟨text,Option.some.inj run,(List.append_nil _).symm⟩
  | cons c more ih =>
    obtain ⟨next,stepped,run⟩ := Option.bind_eq_some_iff.mp run
    obtain ⟨_,rfl,rfl⟩ := ih run
    obtain ⟨before,rfl,rfl⟩ := markStep stepped
    exact ⟨before,rfl,by rw [List.append_assoc]; rfl⟩

theorem markStart {c : Char} {text : Text} (started : lexis.start slashOpens c = some (.mark text)) :
    text = [c] := by
  rw [start] at started
  repeat' split at started
  all_goals cases started
  rfl

theorem markText {text : Text} (scanned : lexis.scan slashOpens token = some (.mark text)) : text = token := by
  cases token with
  | nil => nomatch scanned
  | cons c rest =>
    obtain ⟨first,started,run⟩ := Option.bind_eq_some_iff.mp scanned
    obtain ⟨before,rfl,rfl⟩ := markRun run
    rw [markStart started]
    rfl

theorem markNext {text : Text} {c : Char} {next : State}
    (stepped : (State.mark text).step lexis c = some next) :
    (text = ['.'] ∧ isDigit c = true ∧ next = .numeral (.digits .fraction false)) ∨
      next = .mark (text ++ [c]) := by
  rw [State.step] at stepped
  split at stepped
  · rename_i pointed
    exact .inl ⟨pointed.1,pointed.2,(Option.some.inj stepped).symm⟩
  · split at stepped
    · exact .inr (Option.some.inj stepped).symm
    · cases stepped

theorem markBehind {text : Text} {c : Char} (nonempty : text ≠ [])
    (run : (c :: more).foldlM (State.step lexis) (.mark text) = some state) :
    (text = ['.'] ∧ isDigit c = true) ∨ state = .mark (text ++ c :: more) := by
  induction more generalizing text c with
  | nil =>
    obtain ⟨next,stepped,run⟩ := Option.bind_eq_some_iff.mp run
    cases run
    exact (markNext stepped).imp_left fun ⟨same,digit,_⟩ => ⟨same,digit⟩
  | cons d more ih =>
    obtain ⟨next,stepped,run⟩ := Option.bind_eq_some_iff.mp run
    rcases markNext stepped with ⟨same,digit,_⟩ | rfl
    · exact .inl ⟨same,digit⟩
    · rcases ih (by simp) run with ⟨same,_⟩ | rfl
      · cases text with
        | nil => exact absurd rfl nonempty
        | cons _ _ => simp at same
      · rw [← List.append_cons]
        exact .inr rfl

theorem leadsMark {mark text left : Text} (known : mark ∈ marks) (cut : mark = text ++ left) : leads text = true :=
  List.any_eq_true.mpr ⟨mark,known,List.isPrefixOf_iff_prefix.mpr ⟨left,cut.symm⟩⟩

theorem pointless {c : Char} {left : Text} (known : '.' :: c :: left ∈ marks) : isDigit c = false := by
  have each : ∀ mark ∈ marks, (mark.head? == some '.' && (mark.drop 1).head?.any isDigit) = false := by decide
  simpa using each _ known

theorem markAhead {text : Text} (known : text ++ more ∈ marks) :
    more.foldlM (State.step lexis) (.mark text) = some (.mark (text ++ more)) := by
  induction more generalizing text with
  | nil => rw [List.append_nil]; rfl
  | cons c more ih =>
    have undotted : ¬ (text = ['.'] ∧ isDigit c = true) := by
      rintro ⟨rfl,digit⟩
      rw [pointless known] at digit
      nomatch digit
    rw [List.append_cons] at known ⊢
    rw [List.foldlM_cons,State.step,if_neg undotted,if_pos (leadsMark known rfl)]
    exact ih known

theorem digitKind {group : Group} {c : Char} (digit : group.digit c = true) :
    isLetter c = true ∨ isDigit c = true := by
  have plain (low : '0' ≤ c) (high : c ≤ '9') : isDigit c = true := by
    simp [isDigit,low,high]
  simp only [isLetter,Bool.or_eq_true,Bool.and_eq_true,decide_eq_true_eq]
  cases group with
  | hex =>
    simp only [Group.digit,isHexDigit,Bool.or_eq_true,Bool.and_eq_true,decide_eq_true_eq] at digit
    rcases digit with (digit | ⟨low,high⟩) | ⟨low,high⟩
    · exact .inr digit
    · exact .inl (.inl ⟨low,Char.le_trans high (by decide)⟩)
    · exact .inl (.inr ⟨low,Char.le_trans high (by decide)⟩)
  | eight =>
    simp only [Group.digit,isOctalDigit,Bool.and_eq_true,decide_eq_true_eq] at digit
    exact .inr (plain digit.1 (Char.le_trans digit.2 (by decide)))
  | two =>
    simp only [Group.digit,Bool.or_eq_true,beq_iff_eq] at digit
    rcases digit with rfl | rfl <;> exact .inr rfl
  | _ => exact .inr digit

theorem exponentKind {c : Char} (exponent : isExponent c = true) : isLetter c = true := by
  simp only [isExponent,Bool.or_eq_true,beq_iff_eq] at exponent
  rcases exponent with rfl | rfl <;> rfl

structure NumeralStep (n next : Numeral) (c : Char) : Prop where
  further : n.isWhole = true →
    isLetter c = true ∨ isDigit c = true ∨ c = '_' ∨ (c = '.' ∧ n.isPointed = true)
  ended : next.isWhole = true → isLetter c = true ∨ isDigit c = true ∨ c = '.'
  pointed : next.isPointed = true → isDigit c = true

theorem digitSteps {n next : Numeral} {c : Char} (digit : isDigit c = true) : NumeralStep n next c :=
  ⟨fun _ => .inr (.inl digit),fun _ => .inr (.inl digit),fun _ => digit⟩

theorem letterSteps {n next : Numeral} {c : Char} (letter : isLetter c = true)
    (unpointed : next.isPointed = false) : NumeralStep n next c where
  further _ := .inl letter
  ended _ := .inl letter
  pointed known := absurd (unpointed.symm.trans known) Bool.false_ne_true

theorem pointSteps {n : Numeral} {c : Char} (point : c = '.') (pointed : n.isPointed = true) :
    NumeralStep n .point c where
  further _ := .inr (.inr (.inr ⟨point,pointed⟩))
  ended _ := .inr (.inr point)
  pointed known := absurd known Bool.false_ne_true

theorem awaitedSteps {n : Numeral} {group : Group} {c : Char} (further : n.isWhole = true → c = '_') :
    NumeralStep n (.digits group true) c where
  further whole := .inr (.inr (.inl (further whole)))
  ended whole := absurd whole Bool.false_ne_true
  pointed known := by simp [Numeral.isPointed] at known

theorem groupSteps {n : Numeral} {group behind : Group} {c : Char} (digit : group.digit c = true)
    (same : behind = group ∨ behind = group.behind c) : NumeralStep n (.digits behind false) c := by
  rcases digitKind digit with letter | digit
  · cases group with
    | hex | eight | two => rcases same with rfl | rfl <;> exact letterSteps letter rfl
    | _ => exact digitSteps digit
  · exact digitSteps digit

def NumeralSteps (n : Numeral) (c : Char) (answer : Option Numeral) : Prop :=
  ∀ next, answer = some next → NumeralStep n next c

namespace NumeralSteps

variable {n next : Numeral} {one other : Option Numeral} {c : Char}

theorem nowhere : NumeralSteps n c none := by
  intro next stepped
  cases stepped

theorem onto (step : NumeralStep n next c) : NumeralSteps n c (some next) := by
  intro behind stepped
  cases stepped
  exact step

theorem branch {P : Prop} [Decidable P] (here : P → NumeralSteps n c one) (there : NumeralSteps n c other) :
    NumeralSteps n c (if P then one else other) := by
  intro next stepped
  split at stepped
  · rename_i holds
    exact here holds next stepped
  · exact there next stepped

theorem ofEither {a b : Char} (isRead : c = a ∨ c = b) (first : isLetter a = true) (second : isLetter b = true)
    (unpointed : next.isPointed = false) : NumeralSteps n c (some next) := by
  apply onto
  rcases isRead with rfl | rfl
  · exact letterSteps first unpointed
  · exact letterSteps second unpointed

theorem ofZero (c : Char) : NumeralSteps .zero c (Numeral.step .zero c) := by
  rw [Numeral.step]
  refine branch (fun hex => ofEither hex rfl rfl rfl) ?_
  refine branch (fun eight => ofEither eight rfl rfl rfl) ?_
  refine branch (fun two => ofEither two rfl rfl rfl) ?_
  refine branch (fun big => onto (letterSteps (big ▸ rfl) rfl)) ?_
  refine branch (fun point => onto (pointSteps point rfl)) ?_
  refine branch (fun exponent => onto (letterSteps (exponentKind exponent) rfl)) ?_
  exact branch (fun digit => onto (digitSteps digit)) nowhere

theorem ofAwaited (group : Group) (c : Char) :
    NumeralSteps (.digits group true) c (Numeral.step (.digits group true) c) := by
  rw [Numeral.step]
  exact branch (fun digit => onto (groupSteps digit (.inl rfl))) nowhere

theorem ofDigits (group : Group) (c : Char) :
    NumeralSteps (.digits group false) c (Numeral.step (.digits group false) c) := by
  rw [Numeral.step]
  refine branch (fun digit => onto (groupSteps digit (.inr rfl))) ?_
  refine branch (fun parted => onto (awaitedSteps fun _ => parted.1)) ?_
  refine branch (fun point => onto (pointSteps point.1 (by simp [Numeral.isPointed,point.2]))) ?_
  refine branch (fun exponent => onto (letterSteps (exponentKind exponent.1) rfl)) ?_
  exact branch (fun big => onto (letterSteps (big.1 ▸ rfl) rfl)) nowhere

theorem ofPoint (c : Char) : NumeralSteps .point c (Numeral.step .point c) := by
  rw [Numeral.step]
  refine branch (fun digit => onto (digitSteps digit)) ?_
  exact branch (fun exponent => onto (letterSteps (exponentKind exponent) rfl)) nowhere

theorem ofExponent (c : Char) : NumeralSteps .exponent c (Numeral.step .exponent c) := by
  rw [Numeral.step]
  refine branch (fun digit => onto (digitSteps digit)) ?_
  exact branch (fun _ => onto (awaitedSteps fun whole => absurd whole Bool.false_ne_true)) nowhere

end NumeralSteps

theorem numeralSteps {n next : Numeral} {c : Char} (stepped : n.step c = some next) : NumeralStep n next c := by
  cases n with
  | zero => exact NumeralSteps.ofZero c next stepped
  | digits group awaited =>
    cases awaited with
    | true => exact NumeralSteps.ofAwaited group c next stepped
    | false => exact NumeralSteps.ofDigits group c next stepped
  | point => exact NumeralSteps.ofPoint c next stepped
  | exponent => exact NumeralSteps.ofExponent c next stepped
  | big => cases stepped

/- Whatever a token that is no mark can go on with is something that it grows by. -/
theorem stepGrows {c : Char} {next : State} (isWhole : state.isWhole = true)
    (unmarked : ∀ text, state ≠ .mark text) (stepped : state.step lexis c = some next) : state.grows lexis (c :: rest) = true := by
  cases state with
  | word w =>
    cases of_decide_eq_true isWhole
    show (lexis.part c || c == '\\') = true
    simp only [State.step,Word.step,Option.map_eq_some_iff] at stepped
    obtain ⟨_,stepped,_⟩ := stepped
    split at stepped
    · rename_i part
      simp [part]
    split at stepped
    · rename_i slash
      simp [slash]
    · cases stepped
  | numeral n =>
    show (lexis.begins c || isDigit c || c == '\\' || (c == '.' && n.isPointed)) = true
    obtain ⟨_,stepped,_⟩ := Option.map_eq_some_iff.mp stepped
    rcases (numeralSteps stepped).further isWhole with letter | digit | rfl | ⟨rfl,pointed⟩
    · simp [begins,letter]
    · simp [digit]
    · rfl
    · simp [pointed]
  | quoted quote q =>
    cases of_decide_eq_true isWhole
    nomatch stepped
  | pattern p =>
    cases of_decide_eq_true isWhole
    obtain ⟨_,stepped,_⟩ := Option.map_eq_some_iff.mp stepped
    rw [Pattern.step] at stepped
    split at stepped
    · assumption
    · cases stepped
  | mark text => exact absurd rfl (unmarked text)

theorem unmarkedHolds (isWhole : state.isWhole = true) (unmarked : ∀ text, state ≠ .mark text) :
    state.Holds rest :=
  ⟨isWhole,fun text same => absurd same (unmarked text)⟩

theorem markHolds {text : Text} (known : text ∈ marks) (heads : heads text (text ++ rest) = true) :
    (State.mark text).Holds rest :=
  ⟨by simpa [State.isWhole] using known,fun _ same => State.mark.inj same ▸ heads⟩

theorem runGrows {other : State} {left : Text} (scanned : lexis.scan slashOpens token = some state)
    (isWhole : state.isWhole = true) (longer : more ≠ [])
    (run : more.foldlM (State.step lexis) state = some other) (holds : other.Holds left) : state.grows lexis (more ++ left) = true := by
  cases more with
  | nil => exact absurd rfl longer
  | cons c more =>
    cases state with
    | mark text =>
      have nonempty : text ≠ [] := markText scanned ▸ scanNonempty scanned
      simp only [State.grows,Bool.or_eq_true]
      rcases markBehind nonempty run with ⟨rfl,digit⟩ | rfl
      · exact .inr (by simpa using digit)
      · refine .inl (.inl (List.any_eq_true.mpr ⟨text ++ c :: more,by simpa [State.isWhole] using holds.1,?_⟩))
        have heads := holds.2 _ rfl
        rw [List.append_assoc] at heads
        simpa using heads
    | _ =>
      obtain ⟨next,stepped,_⟩ := Option.bind_eq_some_iff.mp run
      exact stepGrows isWhole (by simp) stepped

theorem longestStays (scanned : lexis.scan slashOpens token = some state) (isWhole : state.isWhole = true)
    (stays : state.grows lexis rest = false) : lexis.Longest slashOpens token rest where
  fits := by
    refine (scanFits scanned).mpr ⟨isWhole,?_⟩
    rintro text rfl
    simp only [State.grows,Bool.or_eq_false_iff,Bool.not_eq_false'] at stays
    exact stays.1.2
  longest := by
    rintro more left rfl fits
    by_cases longer : more = []
    · exact longer
    · rcases fits with template | ⟨other,run,holds⟩
      · exact absurd template (scanTemplate scanned)
      · rw [scanMore scanned] at run
        rw [runGrows scanned isWhole longer run holds] at stays
        nomatch stays
  numeral := by
    intro n numeral
    cases scanned.symm.trans numeral
    cases rest with
    | nil => rfl
    | cons c rest =>
      simp only [State.grows,List.head?_cons,Option.any_some,Bool.or_eq_false_iff] at stays ⊢
      exact stays.1

/- Behind a name an escape goes on with the name, so that a name must begin where a backslash does. -/
def Escapes (lexis : Lexis) (rest : Text) : Prop :=
  ∀ tail, rest = '\\' :: tail → ∃ slashOpens more left other,
    rest = more ++ left ∧ lexis.scan slashOpens more = some other ∧ other.isWhole = true

theorem wordRun {w : Word} {other : State} (run : more.foldlM (State.step lexis) (.word w) = some other) :
    ∃ w, other = .word w := by
  induction more generalizing w with
  | nil => exact ⟨w,(Option.some.inj run).symm⟩
  | cons c more ih =>
    obtain ⟨next,stepped,run⟩ := Option.bind_eq_some_iff.mp run
    obtain ⟨_,_,rfl⟩ := Option.map_eq_some_iff.mp stepped
    exact ih run

theorem escapeRun {tail : Text} (escapes : lexis.Escapes ('\\' :: tail)) :
    ∃ more left other, '\\' :: tail = more ++ left ∧ more ≠ [] ∧
      more.foldlM (State.step lexis) (.word .whole) = some other ∧ other.Holds left := by
  obtain ⟨slash,more,left,other,parts,scanned,isWhole⟩ := escapes tail rfl
  cases more with
  | nil => nomatch scanned
  | cons c more =>
    cases (List.cons.inj parts).1
    -- a backslash leads to the same place at the start of a name and behind one
    have run : ('\\' :: more).foldlM (State.step lexis) (.word .whole) = some other := scanned
    obtain ⟨w,rfl⟩ := wordRun run
    exact ⟨_,left,_,parts,by simp,run,unmarkedHolds isWhole (by simp)⟩

theorem pointedStep {n : Numeral} (pointed : n.isPointed = true) : n.step '.' = some .point := by
  cases n with
  | zero => rfl
  | digits group awaited =>
    cases awaited with
    | true => simp [Numeral.isPointed] at pointed
    | false => cases group <;> first | rfl | nomatch pointed
  | _ => nomatch pointed

theorem markFurther {text mark : Text} (known : mark ∈ marks) (longer : text.length < mark.length)
    (ahead : heads mark (text ++ rest) = true) :
    ∃ more left, rest = more ++ left ∧ more ≠ [] ∧
      more.foldlM (State.step lexis) (.mark text) = some (.mark mark) ∧ (State.mark mark).Holds left := by
  have leading : mark <+: text ++ rest := by
    simp only [heads,Bool.and_eq_true,List.isPrefixOf_iff_prefix] at ahead
    exact ahead.1
  obtain ⟨more,rfl⟩ :=
    List.prefix_of_prefix_length_le (List.prefix_append text rest) leading (Nat.le_of_lt longer)
  obtain ⟨left,rfl⟩ := (List.prefix_append_right_inj text).mp leading
  refine ⟨more,left,rfl,?_,markAhead known,markHolds known (by rwa [List.append_assoc])⟩
  rintro rfl
  simp at longer

theorem longestGrows (scanned : lexis.scan slashOpens token = some state) (escapes : lexis.Escapes rest)
    (longest : lexis.Longest slashOpens token rest) : state.grows lexis rest = false := by
  have holds := (scanFits scanned).mp longest.fits
  have isWhole := holds.1
  have stops : ¬ ∃ more left other, rest = more ++ left ∧ more ≠ [] ∧
      more.foldlM (State.step lexis) state = some other ∧ other.Holds left := by
    rintro ⟨more,left,other,rfl,longer,run,holds⟩
    exact longer (longest.longest rfl (.inr ⟨other,(scanMore scanned).trans run,holds⟩))
  rw [← Bool.not_eq_true]
  intro grows
  cases state with
  | word w =>
    cases of_decide_eq_true isWhole
    cases rest with
    | nil => nomatch grows
    | cons c tail =>
      simp only [State.grows,List.head?_cons,Option.any_some,Bool.or_eq_true,beq_iff_eq] at grows
      rcases grows with part | rfl
      · refine stops ⟨[c],tail,.word .whole,rfl,by simp,?_,unmarkedHolds rfl (by simp)⟩
        simp [State.step,Word.step,part]
      · exact stops (escapeRun escapes)
  | numeral n =>
    cases rest with
    | nil => nomatch grows
    | cons c tail =>
      have rule := longest.numeral scanned
      simp only [State.grows,List.head?_cons,Option.any_some] at grows rule
      rw [rule,Bool.false_or,Bool.and_eq_true,beq_iff_eq] at grows
      obtain ⟨rfl,pointed⟩ := grows
      refine stops ⟨['.'],tail,.numeral .point,rfl,by simp,?_,unmarkedHolds rfl (by simp)⟩
      simp [State.step,pointedStep pointed]
  | quoted quote q => nomatch grows
  | pattern p =>
    cases of_decide_eq_true isWhole
    cases rest with
    | nil => nomatch grows
    | cons c tail =>
      refine stops ⟨[c],tail,.pattern .flags,rfl,by simp,?_,unmarkedHolds rfl (by simp)⟩
      have part : lexis.part c = true := grows
      simp [State.step,Pattern.step,part]
  | mark text =>
    simp only [State.grows,Bool.or_eq_true,Bool.and_eq_true,List.any_eq_true,decide_eq_true_eq,
      Bool.not_eq_true',beq_iff_eq] at grows
    rcases grows with (⟨mark,known,longer,ahead⟩ | behind) | ⟨rfl,digit⟩
    · obtain ⟨more,left,parts,longer,run,holds⟩ := markFurther known longer ahead
      exact stops ⟨more,left,_,parts,longer,run,holds⟩
    · rw [holds.2 _ rfl] at behind
      nomatch behind
    · cases rest with
      | nil => nomatch digit
      | cons d tail =>
        refine stops ⟨[d],tail,.numeral (.digits .fraction false),rfl,by simp,?_,unmarkedHolds rfl (by simp)⟩
        have digit : isDigit d = true := digit
        simp [State.step,digit]

end reading

section skipping

variable {fresh : Bool} {text gap rest token : Text}

theorem lineMarksPlain {mark : Text} (known : mark ∈ "/*".toList :: lineMarks fresh) :
    mark.any endsLine = false ∧ ∀ c ∈ mark, isGap c = false := by
  have each : ("/*".toList :: lineMarks fresh).all
      (fun mark => mark.all fun c => !endsLine c && !isGap c) = true := by
    cases fresh <;> decide
  have plain := List.all_eq_true.mp (List.all_eq_true.mp each mark known)
  simp only [Bool.and_eq_true,Bool.not_eq_true'] at plain
  exact ⟨List.any_eq_false.mpr fun c inside => by rw [(plain c inside).1]; exact Bool.false_ne_true,
    fun c inside => (plain c inside).2⟩

theorem passesParts (passes : Passes fresh text gap rest) :
    text = gap ++ rest ∧ skips (fresh || gap.any endsLine) rest = false := by
  induction passes with
  | done settled => exact ⟨rfl,by rwa [List.any_nil,Bool.or_false]⟩
  | blank blank passes ih =>
    refine ⟨by rw [ih.1]; rfl,?_⟩
    rw [List.any_cons,← Bool.or_assoc]
    exact ih.2
  | line known plain ended passes ih =>
    refine ⟨by rw [ih.1,List.append_assoc _ _ (_ ++ _)]; simp,?_⟩
    rw [List.any_append,List.any_append,plain,(lineMarksPlain (List.mem_cons_of_mem _ known)).1]
    exact ih.2
  | block closed passes ih =>
    refine ⟨by rw [ih.1]; simp,?_⟩
    rw [List.any_append,List.any_append,List.any_append]
    rw [Bool.or_assoc] at ih
    simpa [endsLine,isLineSeparator] using ih.2

theorem passesSettled (settled : skips fresh text = false) (passes : Passes fresh text gap rest) :
    gap = [] ∧ text = rest := by
  cases passes with
  | done _ => exact ⟨rfl,rfl⟩
  | blank blank _ =>
    rw [skips,Bool.or_eq_false_iff] at settled
    rw [show isGap _ = false from settled.1] at blank
    nomatch blank
  | line known _ _ _ =>
    simp only [skips,Bool.or_eq_false_iff,List.any_eq_false,List.isPrefixOf_iff_prefix] at settled
    exact absurd ⟨_,(List.append_assoc ..).symm⟩ (settled.2 _ (List.mem_cons_of_mem _ known))
  | block _ _ =>
    simp only [skips,Bool.or_eq_false_iff,List.any_eq_false,List.isPrefixOf_iff_prefix] at settled
    exact absurd ⟨_,by rw [List.append_assoc,List.append_assoc]⟩ (settled.2 _ List.mem_cons_self)

theorem passesBlanks (blank : ∀ c ∈ gap, isGap c = true) :
    Passes fresh (gap ++ text) gap text ↔ skips (fresh || gap.any endsLine) text = false := by
  refine ⟨fun passes => (passesParts passes).2,?_⟩
  induction gap generalizing fresh with
  | nil =>
    rw [List.any_nil,Bool.or_false]
    exact Passes.done
  | cons c gap ih =>
    rw [List.any_cons,← Bool.or_assoc]
    intro settled
    exact .blank (blank c List.mem_cons_self) (ih (fun d known => blank d (List.mem_cons_of_mem _ known)) settled)

theorem insideLonger {mark : Text} {c : Char} (leading : mark <+: token ++ c :: rest)
    (longer : token.length < mark.length) : c ∈ mark := by
  have beyond : token ++ [c] <+: token ++ c :: rest := ⟨rest,(List.append_cons ..).symm⟩
  exact (List.prefix_of_prefix_length_le beyond leading (by simp; omega)).subset (by simp)

theorem skipsWhole (nonempty : token ≠ []) (settled : skips fresh (token ++ text) = false) :
    skips fresh token = false := by
  simp only [skips,Bool.or_eq_false_iff,List.any_eq_false,List.isPrefixOf_iff_prefix] at settled ⊢
  refine ⟨?_,fun mark known leading => settled.2 mark known (leading.trans (List.prefix_append _ _))⟩
  cases token with
  | nil => exact absurd rfl nonempty
  | cons c token => exact settled.1

theorem skipsBlank {c : Char} (nonempty : token ≠ []) (blank : isGap c = true)
    (settled : skips fresh token = false) : skips fresh (token ++ c :: rest) = false := by
  simp only [skips,Bool.or_eq_false_iff,List.any_eq_false,List.isPrefixOf_iff_prefix] at settled ⊢
  refine ⟨?_,?_⟩
  · cases token with
    | nil => exact absurd rfl nonempty
    | cons d token => exact settled.1
  · intro mark known leading
    by_cases short : mark.length ≤ token.length
    · exact settled.2 mark known (List.prefix_of_prefix_length_le leading (List.prefix_append _ _) short)
    · rw [(lineMarksPlain known).2 c (insideLonger leading (by omega))] at blank
      nomatch blank

end skipping

section standing

variable {lexis : Lexis} {slashOpens : Bool} {token source rest : Text} {seen : Seen} {piece : Piece}

theorem scanTicked (ticked : token.head? = some '\x60') : lexis.scan slashOpens token = none := by
  cases scanned : lexis.scan slashOpens token with
  | none => rfl
  | some state =>
    obtain ⟨c,more,rfl,other⟩ := scanUnticked scanned
    exact absurd (Option.some.inj ticked) other

theorem templateLongest (template : lexis.template token) : lexis.Longest slashOpens token rest where
  fits := .inl template
  longest := by
    intro more left parts fits
    have ticked : (token ++ more).head? = some '\x60' := by
      rw [List.head?_append,lexis.ticked template]
      rfl
    rcases fits with longer | ⟨state,scanned,_⟩
    · exact lexis.whole template longer
    · rw [scanTicked ticked] at scanned
      nomatch scanned
  numeral := by
    intro n scanned
    rw [scanTicked (lexis.ticked template)] at scanned
    nomatch scanned

theorem longestNonempty (longest : lexis.Longest slashOpens token source) : token ≠ [] := by
  rintro rfl
  rcases longest.fits with template | ⟨state,scanned,_⟩
  · nomatch lexis.ticked template
  · nomatch scanned

theorem staysIff (longest : lexis.Longest (lexis.slashOpens seen) piece.token source) (escapes : lexis.Escapes rest) :
    lexis.runs seen piece rest = false ↔ skips (seen.isEmpty || piece.broken) (piece.token ++ rest) = false ∧
      lexis.Longest (lexis.slashOpens seen) piece.token rest := by
  rw [runs,Bool.or_eq_false_iff]
  refine and_congr_right fun _ => ?_
  rcases longest.fits with template | ⟨state,scanned,holds⟩
  · rw [scanTicked (lexis.ticked template)]
    exact ⟨fun _ => templateLongest template,fun _ => rfl⟩
  · rw [scanned]
    exact ⟨longestStays scanned holds.1,longestGrows scanned escapes⟩

theorem marksPlain {mark : Text} {c : Char} (known : mark ∈ marks) (inside : c ∈ mark) : isGap c = false := by
  have each : marks.all (fun mark => mark.all fun c => !isGap c) = true := by decide
  simpa using List.all_eq_true.mp (List.all_eq_true.mp each mark known) c inside

theorem headsBehind {mark : Text} : heads mark (mark ++ rest) = !(mark == ['?','.'] && rest.head?.any isDigit) := by
  have leading : mark.isPrefixOf (mark ++ rest) = true := List.isPrefixOf_iff_prefix.mpr (List.prefix_append _ _)
  rw [heads,leading,Bool.true_and]
  by_cases same : mark = ['?','.']
  · subst same
    rfl
  · rw [beq_false_of_ne same,Bool.false_and,Bool.false_and]

theorem markStays {mark : Text} (undigited : rest.head?.any isDigit = false)
    (beyond : ∀ longer ∈ marks, mark.length < longer.length → ¬ longer <+: mark ++ rest) :
    (State.mark mark).grows lexis rest = false := by
  simp only [State.grows,Bool.or_eq_false_iff,List.any_eq_false,Bool.and_eq_true,decide_eq_true_eq,headsBehind,
    undigited,Bool.and_false,Bool.not_false,Bool.not_true,and_true]
  rintro longer known ⟨size,ahead⟩
  simp only [heads,Bool.and_eq_true,List.isPrefixOf_iff_prefix] at ahead
  exact beyond longer known size ahead.1

theorem growsEnd {state : State} : state.grows lexis [] = false := by
  cases state with
  | mark text =>
    refine markStays rfl fun longer _ size leading => ?_
    have within := leading.length_le
    rw [List.append_nil] at within
    omega
  | _ => rfl

theorem growsBlank {state : State} {c : Char} (blank : c = ' ' ∨ c = '\n') :
    state.grows lexis (c :: rest) = false := by
  cases state with
  | mark text =>
    have gap : isGap c = true := by rcases blank with rfl | rfl <;> rfl
    refine markStays (by rcases blank with rfl | rfl <;> rfl) fun longer known size leading => ?_
    rw [marksPlain known (insideLonger leading size)] at gap
    nomatch gap
  | _ => rcases blank with rfl | rfl <;> rfl

theorem runsEnd (longest : lexis.Longest (lexis.slashOpens seen) piece.token source)
    (settled : skips (seen.isEmpty || piece.broken) (piece.token ++ source) = false) :
    lexis.runs seen piece [] = false := by
  rw [runs,List.append_nil,skipsWhole (longestNonempty longest) settled]
  cases lexis.scan (lexis.slashOpens seen) piece.token with
  | none => rfl
  | some state => exact growsEnd

theorem runsBlank {c : Char} (longest : lexis.Longest (lexis.slashOpens seen) piece.token source)
    (settled : skips (seen.isEmpty || piece.broken) (piece.token ++ source) = false) (blank : c = ' ' ∨ c = '\n') :
    lexis.runs seen piece (c :: rest) = false := by
  have nonempty := longestNonempty longest
  have gap : isGap c = true := by rcases blank with rfl | rfl <;> rfl
  rw [runs,skipsBlank nonempty gap (skipsWhole nonempty settled)]
  cases lexis.scan (lexis.slashOpens seen) piece.token with
  | none => rfl
  | some state => exact growsBlank blank

end standing

end Lexis

end ScriptConsole.Script
