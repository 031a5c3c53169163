import ScriptConsole.Script.Minify
import ScriptConsole.Proofs.Script.Longest

/-!
What a space is put for. A space keeps apart every two words, numbers and expressions with flags; none is
put behind an expression without flags, a number that ends in its point, or at an escape. -/
namespace ScriptConsole.Script

namespace Lexis
open Minify (joins needsSpace)

variable {lexis : Lexis} {slashOpens : Bool} {state : State} {token : Text} {c : Char}

theorem scanLast (scanned : lexis.scan slashOpens (token ++ [c]) = some state) :
    lexis.start slashOpens c = some state ∨ ∃ before, State.step lexis before c = some state := by
  cases token with
  | nil =>
    obtain ⟨first,started,run⟩ := Option.bind_eq_some_iff.mp scanned
    cases run
    exact .inl started
  | cons d token =>
    obtain ⟨first,_,run⟩ := Option.bind_eq_some_iff.mp scanned
    have run : (token ++ [c]).foldlM (State.step lexis) first = some state := run
    rw [List.foldlM_append] at run
    obtain ⟨before,_,run⟩ := Option.bind_eq_some_iff.mp run
    obtain ⟨_,stepped,run⟩ := Option.bind_eq_some_iff.mp run
    cases run
    exact .inr ⟨before,stepped⟩

theorem letterJoins (letter : isLetter c = true) : joins c = true := by
  simp [joins,letter]

theorem digitJoins (digit : isDigit c = true) : joins c = true := by
  simp [joins,digit]

theorem partJoins (part : lexis.part c = true) : joins c = true := by
  simp only [Lexis.part,joins,Bool.or_eq_true,Bool.and_eq_true] at part ⊢
  exact part.imp_right And.left

theorem beginsJoins (begins : lexis.begins c = true) : joins c = true := by
  simp only [Lexis.begins,joins,Bool.or_eq_true,Bool.and_eq_true] at begins ⊢
  grind

theorem hexJoins (hex : isHexDigit c = true) : joins c = true :=
  (@digitKind .hex c hex).elim letterJoins digitJoins

theorem wordEnds {w : Word} (stepped : w.step lexis c = some .whole) : joins c = true ∨ c = '\x7d' := by
  cases w with
  | whole =>
    rw [Word.step] at stepped
    split at stepped
    · rename_i part
      exact .inl (partJoins part)
    · split at stepped <;> cases stepped
  | sign =>
    rw [Word.step] at stepped
    split at stepped
    · rename_i begins
      exact .inl (beginsJoins begins)
    · split at stepped <;> cases stepped
  | slash =>
    rw [Word.step] at stepped
    split at stepped <;> cases stepped
  | unicode =>
    rw [Word.step] at stepped
    repeat' split at stepped
    all_goals cases stepped
  | digits left =>
    cases left with
    | zero =>
      rw [Word.step] at stepped
      split at stepped
      · rename_i hex
        exact .inl (hexJoins hex)
      · cases stepped
    | succ left =>
      rw [Word.step] at stepped
      split at stepped <;> cases stepped
  | braced any =>
    rw [Word.step] at stepped
    split at stepped
    · cases stepped
    · split at stepped
      · rename_i brace
        rw [Bool.and_eq_true,decide_eq_true_eq] at brace
        exact .inr brace.2
      · cases stepped

theorem wordLast (scanned : lexis.scan slashOpens (token ++ [c]) = some (.word .whole)) :
    joins c = true ∨ c = '\x7d' := by
  rcases scanLast scanned with started | ⟨before,stepped⟩
  · rw [start] at started
    split at started
    · rename_i begins
      exact .inl (beginsJoins begins)
    · repeat' split at started
      all_goals cases started
  · cases before with
    | word w =>
      obtain ⟨_,stepped,same⟩ := Option.map_eq_some_iff.mp stepped
      cases same
      exact wordEnds stepped
    | mark text => rcases markNext stepped with ⟨_,_,same⟩ | same <;> cases same
    | _ => simp [State.step] at stepped

theorem numeralLast {n : Numeral} (scanned : lexis.scan slashOpens (token ++ [c]) = some (.numeral n))
    (whole : n.isWhole = true) : (joins c = true ∨ c = '.') ∧ (n.isPointed = true → isDigit c = true) := by
  rcases scanLast scanned with started | ⟨before,stepped⟩
  · rw [start] at started
    repeat' split at started
    all_goals cases started
    · rename_i zero
      exact ⟨.inl (zero ▸ rfl),fun _ => zero ▸ rfl⟩
    · rename_i digit
      exact ⟨.inl (digitJoins digit),fun _ => digit⟩
  · cases before with
    | numeral m =>
      obtain ⟨_,stepped,same⟩ := Option.map_eq_some_iff.mp stepped
      cases same
      have step := numeralSteps stepped
      refine ⟨?_,step.pointed⟩
      rcases step.ended whole with letter | digit | point
      · exact .inl (letterJoins letter)
      · exact .inl (digitJoins digit)
      · exact .inr point
    | mark text =>
      rcases markNext stepped with ⟨_,digit,_⟩ | same
      · exact ⟨.inl (digitJoins digit),fun _ => digit⟩
      · cases same
    | _ => simp [State.step] at stepped

theorem patternLast (scanned : lexis.scan slashOpens (token ++ [c]) = some (.pattern .flags)) :
    joins c = true ∨ c = '/' := by
  rcases scanLast scanned with started | ⟨before,stepped⟩
  · rw [start] at started
    repeat' split at started
    all_goals cases started
  · cases before with
    | pattern p =>
      obtain ⟨_,stepped,same⟩ := Option.map_eq_some_iff.mp stepped
      cases same
      cases p with
      | flags =>
        rw [Pattern.step] at stepped
        split at stepped
        · rename_i part
          exact .inl (partJoins part)
        · cases stepped
      | escaped | setEscaped =>
        rw [Pattern.step] at stepped
        split at stepped <;> cases stepped
      | set =>
        rw [Pattern.step] at stepped
        repeat' split at stepped
        all_goals cases stepped
      | first | inside =>
        simp only [Pattern.step] at stepped
        split at stepped
        · cases stepped
        split at stepped
        · rename_i slash
          exact .inr slash
        · repeat' split at stepped
          all_goals cases stepped
    | mark text => rcases markNext stepped with ⟨_,_,same⟩ | same <;> cases same
    | _ => simp [State.step] at stepped

def State.slips (lexis : Lexis) (left right : Text) : State → Bool
  | .word _ => (left.getLast? == some '\x7d' && right.head?.any lexis.part) || right.head? == some '\\'
  | .numeral _ =>
      (left.getLast? == some '.' && right.head?.any fun c => lexis.begins c || isDigit c) ||
        right.head? == some '\\'
  | .pattern _ => left.getLast? == some '/' && right.head?.any lexis.part
  | .quoted .. | .mark _ => false

def signed (left right : Text) : Bool :=
  ['+','-','/'].any fun c => left.getLast? == some c && right.head? == some c

section ends

variable {d : Char} {rest more : Text}

theorem unspacedParts (unspaced : needsSpace (token ++ [c]) (d :: rest) = false) :
    (joins c = true → joins d = false) ∧ (isDigit c = true → d ≠ '.') := by
  simp only [needsSpace,List.getLast?_concat,List.head?_cons,Bool.or_eq_false_iff,Bool.and_eq_false_iff,
    beq_eq_false_iff_ne] at unspaced
  obtain ⟨⟨⟨⟨apart,_⟩,_⟩,_⟩,point⟩ := unspaced
  exact ⟨fun left => apart.resolve_left (by simp [left]),fun left => point.resolve_left (by simp [left])⟩

theorem unspacedGrows (scanned : lexis.scan slashOpens (token ++ [c]) = some state) (whole : state.isWhole = true)
    (unmarked : ∀ text, state ≠ .mark text) (unspaced : needsSpace (token ++ [c]) (d :: rest) = false) :
    state.grows lexis (d :: more) = state.slips lexis (token ++ [c]) (d :: rest) := by
  obtain ⟨apart,point⟩ := unspacedParts unspaced
  have alone (other : Char) (last : joins c = true ∨ c = other) (right : joins d = true) : c = other :=
    last.resolve_left fun left => Bool.false_ne_true ((apart left).symm.trans right)
  cases state with
  | word w =>
    cases of_decide_eq_true whole
    simp only [State.grows,State.slips,List.getLast?_concat,List.head?_cons,Option.any_some,Option.some_beq_some]
    cases part : lexis.part d with
    | false => simp
    | true =>
      rw [alone _ (wordLast scanned) (partJoins part)]
      rfl
  | numeral n =>
    obtain ⟨last,pointed⟩ := numeralLast scanned whole
    have pointless : (d == '.' && n.isPointed) = false := by
      rw [Bool.and_eq_false_iff,beq_eq_false_iff_ne]
      by_cases known : n.isPointed = true
      · exact .inl (point (pointed known))
      · exact .inr (by simpa using known)
    simp only [State.grows,State.slips,List.getLast?_concat,List.head?_cons,Option.any_some,Option.some_beq_some,
      pointless,Bool.or_false]
    cases starts : lexis.begins d || isDigit d with
    | false => simp
    | true =>
      have right : joins d = true := by
        rcases Bool.or_eq_true _ _ ▸ starts with begins | digit
        · exact beginsJoins begins
        · exact digitJoins digit
      rw [alone _ last right]
      rfl
  | quoted quote q => rfl
  | pattern p =>
    cases of_decide_eq_true whole
    simp only [State.grows,State.slips,List.getLast?_concat,List.head?_cons,Option.any_some,Option.some_beq_some]
    cases part : lexis.part d with
    | false => simp
    | true =>
      rw [alone _ (patternLast scanned) (partJoins part)]
      rfl
  | mark text => exact absurd rfl (unmarked text)

theorem slipsUnspaced (slips : state.slips lexis (token ++ [c]) (d :: rest) = true) :
    needsSpace (token ++ [c]) (d :: rest) = false := by
  have escape : needsSpace (token ++ [c]) ('\\' :: rest) = false := by
    simp [needsSpace,show joins '\\' = false from rfl]
  cases state with
  | word w =>
    simp only [State.slips,List.getLast?_concat,List.head?_cons,Option.any_some,Option.some_beq_some,
      Bool.or_eq_true,Bool.and_eq_true,beq_iff_eq] at slips
    rcases slips with ⟨rfl,_⟩ | rfl
    · simp only [needsSpace,List.getLast?_concat,List.head?_cons]
      rfl
    · exact escape
  | numeral n =>
    simp only [State.slips,List.getLast?_concat,List.head?_cons,Option.any_some,Option.some_beq_some,
      Bool.or_eq_true,Bool.and_eq_true,beq_iff_eq] at slips
    rcases slips with ⟨rfl,_⟩ | rfl
    · simp only [needsSpace,List.getLast?_concat,List.head?_cons]
      rfl
    · exact escape
  | quoted quote q => cases slips
  | pattern p =>
    simp only [State.slips,List.getLast?_concat,List.head?_cons,Option.any_some,Option.some_beq_some,
      Bool.and_eq_true,beq_iff_eq] at slips
    obtain ⟨rfl,part⟩ := slips
    have other : d ≠ '/' := by
      rintro rfl
      cases part
    simp only [needsSpace,List.getLast?_concat,List.head?_cons]
    simp [other,show joins '/' = false from rfl,show isDigit '/' = false from rfl]
  | mark text => cases slips

theorem markSpaced {text : Text} (known : text ∈ marks) :
    needsSpace text (d :: rest) = signed text (d :: rest) := by
  have each : marks.all (fun mark => mark.getLast?.any fun c => !joins c && !isDigit c) = true := by decide
  have plain := List.all_eq_true.mp each text known
  cases last : text.getLast? with
  | none =>
    rw [last] at plain
    cases plain
  | some c =>
    simp only [last,Option.any_some,Bool.and_eq_true,Bool.not_eq_true'] at plain
    simp [needsSpace,signed,last,plain.1,plain.2,Bool.or_assoc]

end ends

section standing

variable {seen : Seen} {left right : Piece} {source more behind : Text} {fresh : Bool}

theorem markFirst (marked : lexis.start slashOpens c = some (.mark [c]))
    (scanned : lexis.scan slashOpens (c :: token) = some state) (other : c ≠ '.') :
    state = .mark (c :: token) := by
  obtain ⟨first,started,run⟩ := Option.bind_eq_some_iff.mp scanned
  cases marked.symm.trans started
  cases token with
  | nil =>
    cases run
    rfl
  | cons d token =>
    rcases markBehind (by simp) run with ⟨same,_⟩ | same
    · exact absurd (List.cons.inj same).1 other
    · exact same

theorem openerShape {opener : Text} (known : opener ∈ "/*".toList :: lineMarks fresh) :
    ∃ tail, opener = '<' :: tail ∨ opener = '-' :: tail ∨
      ∃ d, (d = '*' ∨ d = '/') ∧ opener = '/' :: d :: tail := by
  have each : opener = "/*".toList ∨ opener = "//".toList ∨ opener = "<!--".toList ∨
      opener = "-->".toList := by
    cases fresh <;> grind [lineMarks]
  rcases each with rfl | rfl | rfl | rfl
  · exact ⟨_,.inr (.inr ⟨'*',.inl rfl,rfl⟩)⟩
  · exact ⟨_,.inr (.inr ⟨'/',.inr rfl,rfl⟩)⟩
  · exact ⟨_,.inl rfl⟩
  · exact ⟨_,.inr (.inl rfl)⟩

/- Only a mark runs into a comment: where a slash is none, an expression has begun with it. -/
theorem openerMark {opener : Text} (known : opener ∈ "/*".toList :: lineMarks fresh)
    (scanned : lexis.scan slashOpens token = some state) (whole : state.isWhole = true)
    (leading : opener <+: token ++ more) : ∃ text, state = .mark text := by
  cases token with
  | nil => cases scanned
  | cons c token =>
    obtain ⟨tail,rfl | rfl | ⟨d,sign,rfl⟩⟩ := openerShape known
    · obtain ⟨rfl,_⟩ := List.cons_prefix_cons.mp leading
      exact ⟨_,markFirst rfl scanned (by decide)⟩
    · obtain ⟨rfl,_⟩ := List.cons_prefix_cons.mp leading
      exact ⟨_,markFirst rfl scanned (by decide)⟩
    · obtain ⟨rfl,behind⟩ := List.cons_prefix_cons.mp leading
      cases slashOpens with
      | false => exact ⟨_,markFirst rfl scanned (by decide)⟩
      | true =>
        cases token with
        | nil =>
          cases scanned
          cases whole
        | cons e token =>
          obtain ⟨rfl,_⟩ := List.cons_prefix_cons.mp behind
          rcases sign with rfl | rfl <;> cases scanned

theorem runsUnmarked {rest : Text} (scanned : lexis.scan (lexis.slashOpens seen) left.token = some state)
    (whole : state.isWhole = true) (unmarked : ∀ text, state ≠ .mark text)
    (settled : skips (seen.isEmpty || left.broken) (left.token ++ source) = false) :
    lexis.runs seen left rest = state.grows lexis rest := by
  have plain : skips (seen.isEmpty || left.broken) (left.token ++ rest) = false := by
    simp only [skips,Bool.or_eq_false_iff,List.any_eq_false,List.isPrefixOf_iff_prefix] at settled ⊢
    refine ⟨?_,fun opener known leading => ?_⟩
    · cases token : left.token with
      | nil => exact absurd token (scanNonempty scanned)
      | cons c tail =>
        rw [token] at settled
        exact settled.1
    · obtain ⟨text,marked⟩ := openerMark known scanned whole leading
      exact unmarked text marked
  rw [runs,plain,scanned,Bool.false_or,Option.any_some]

theorem runsTemplate {rest : Text} (template : lexis.template left.token) : lexis.runs seen left rest = false := by
  obtain ⟨tail,ticked⟩ := List.head?_eq_some_iff.mp (lexis.ticked template)
  rw [runs,scanTicked (lexis.ticked template),ticked]
  cases seen.isEmpty || left.broken <;> rfl

theorem growsHead {a b : Text} (unmarked : ∀ text, state ≠ .mark text) :
    state.grows lexis (c :: a) = state.grows lexis (c :: b) := by
  cases state with
  | mark text => exact absurd rfl (unmarked text)
  | _ => rfl

theorem escapesToken (longest : lexis.Longest slashOpens token source) : lexis.Escapes (token ++ more) := by
  intro tail parts
  rcases longest.fits with template | ⟨state,scanned,holds⟩
  · obtain ⟨_,rfl⟩ := List.head?_eq_some_iff.mp (lexis.ticked template)
    cases parts
  · exact ⟨slashOpens,token,more,state,rfl,scanned,holds.1⟩

/- Whether a token that was read grows into the one behind it, which a gap without a line end had kept
apart from it. For a mark it depends on more than the ends of the two. -/
def glues (lexis : Lexis) (seen : Seen) (left right : Piece) (behind : Text) : Bool :=
  match lexis.scan (lexis.slashOpens seen) left.token with
  | none => false
  | some (.mark _) =>
      (right.gap.isEmpty || !signed left.token right.token) && lexis.runs seen left (right.token ++ behind)
  | some state => !right.gap.isEmpty && state.slips lexis left.token right.token

theorem gluesMark {text : Text} (scanned : lexis.scan (lexis.slashOpens seen) left.token = some (.mark text)) :
    lexis.glues seen left right behind =
      ((right.gap.isEmpty || !signed left.token right.token) && lexis.runs seen left (right.token ++ behind)) := by
  rw [glues,scanned]

theorem gluesUnmarked (scanned : lexis.scan (lexis.slashOpens seen) left.token = some state)
    (unmarked : ∀ text, state ≠ .mark text) :
    lexis.glues seen left right behind =
      (!right.gap.isEmpty && state.slips lexis left.token right.token) := by
  rw [glues,scanned]
  cases state with
  | mark text => exact absurd rfl (unmarked text)
  | _ => rfl

theorem gluesTemplate (template : lexis.template left.token) : lexis.glues seen left right behind = false := by
  rw [glues,scanTicked (lexis.ticked template)]

end standing

end Lexis

end ScriptConsole.Script
