import ScriptConsole.Proofs.Script.Spacing

/-!
A script without its blanks. It is read again as the same tokens, parted by the same line ends, exactly
if no line ended in a way of its own and no token grows into those that have come to stand behind it. -/
namespace ScriptConsole.Script

namespace Minify
open Lexis (Piece Reads Passes skips)

def ranges (start : Nat) : List Piece → List (Nat × Nat)
  | [] => []
  | piece :: rest =>
      (start + piece.gap.length, start + piece.gap.length + piece.token.length) ::
        ranges (start + piece.gap.length + piece.token.length) rest

def writtenAfter (left : Text) : List Piece → Text
  | [] => []
  | piece :: rest =>
      separator left piece.gap piece.token ++ (piece.token ++ writtenAfter piece.token rest)

def written : List Piece → Text
  | [] => []
  | piece :: rest => piece.token ++ writtenAfter piece.token rest

def partedAfter (left : Text) : List Piece → List Piece
  | [] => []
  | piece :: rest =>
      ⟨separator left piece.gap piece.token,piece.token⟩ :: partedAfter piece.token rest

/- Every end of a line between two tokens is one that is kept, and no token grows into one that stood on
its line. -/
def Kept (lexis : Lexis) : Seen → List Piece → Prop
  | _, [] => True
  | _, [_] => True
  | seen, left :: right :: rest =>
      (right.broken = true → '\n' ∈ right.gap) ∧
        ('\n' ∉ right.gap → lexis.glues seen left right (writtenAfter right.token rest) = false) ∧
        Kept lexis (left.seen seen) (right :: rest)

instance Kept.decidable (lexis : Lexis) :
    (seen : Seen) → (pieces : List Piece) → Decidable (Kept lexis seen pieces)
  | _, [] => isTrue trivial
  | _, [_] => isTrue trivial
  | seen, left :: right :: rest =>
      have := Kept.decidable lexis (left.seen seen) (right :: rest)
      inferInstanceAs (Decidable (_ ∧ _ ∧ Kept lexis (left.seen seen) (right :: rest)))

structure Alike (pieces again : List Piece) : Prop where
  tokens : again.map Piece.token = pieces.map Piece.token
  breaks : again.tail.map Piece.broken = pieces.tail.map Piece.broken
  bare : ∀ piece ∈ again, ∀ c ∈ piece.gap, isGap c = true

section writing

def spelled (pieces : List Piece) : Text := pieces.flatMap fun piece => piece.gap ++ piece.token

theorem betweenParts (before part behind : Text) :
    between (before ++ (part ++ behind)) before.length (before.length + part.length) = part := by
  rw [between,List.drop_left,Nat.add_sub_cancel_left,List.take_left]

theorem joinAfterWritten (before left last : Text) (pieces : List Piece) :
    joinAfter (before ++ (spelled pieces ++ last)) left before.length (ranges before.length pieces) =
      writtenAfter left pieces := by
  induction pieces generalizing before left with
  | nil => rfl
  | cons piece rest ih =>
    have ahead := betweenParts before piece.gap (piece.token ++ (spelled rest ++ last))
    have inside := betweenParts (before ++ piece.gap) piece.token (spelled rest ++ last)
    have behind := ih (before ++ piece.gap ++ piece.token) piece.token
    have whole : before ++ (spelled (piece :: rest) ++ last) =
        before ++ (piece.gap ++ (piece.token ++ (spelled rest ++ last))) := by
      simp [spelled]
    rw [List.length_append] at inside
    rw [List.append_assoc] at inside
    rw [List.length_append,List.length_append,List.append_assoc,List.append_assoc] at behind
    rw [whole,ranges,joinAfter,ahead,inside,behind,writtenAfter,List.append_assoc]

theorem joinWritten (last : Text) (pieces : List Piece) :
    join (spelled pieces ++ last) (ranges 0 pieces) = written pieces := by
  cases pieces with
  | nil => rfl
  | cons piece rest =>
    have inside := betweenParts piece.gap piece.token (spelled rest ++ last)
    have behind := joinAfterWritten (piece.gap ++ piece.token) piece.token last rest
    have whole : spelled (piece :: rest) ++ last = piece.gap ++ (piece.token ++ (spelled rest ++ last)) := by
      simp [spelled]
    rw [List.length_append,List.append_assoc] at behind
    rw [whole,ranges,join,Nat.zero_add,inside,behind,written]

theorem readsSpelled {lexis : Lexis} {seen : Seen} {text : Text} {pieces : List Piece}
    (reads : Reads lexis seen text pieces) : ∃ last, text = spelled pieces ++ last := by
  induction reads with
  | done passes => exact ⟨_,(Lexis.passesParts passes).1.trans (List.append_nil _)⟩
  | next passes longest reads ih =>
    obtain ⟨last,rfl⟩ := ih
    exact ⟨last,(Lexis.passesParts passes).1.trans (by simp [spelled])⟩

end writing

section reading

variable {lexis : Lexis} {seen : Seen} {text rest gap : Text} {piece : Piece} {pieces : List Piece}

theorem readsNext : Reads lexis seen text (piece :: pieces) ↔
    ∃ rest, Passes seen.isEmpty text piece.gap (piece.token ++ rest) ∧
      lexis.Longest (lexis.slashOpens seen) piece.token rest ∧ Reads lexis (piece.seen seen) rest pieces := by
  constructor
  · intro reads
    cases reads with
    | next passes longest reads => exact ⟨_,passes,longest,reads⟩
  · rintro ⟨rest,passes,longest,reads⟩
    exact .next passes longest reads

theorem readsBlank {token : Text} (blank : ∀ c ∈ gap, isGap c = true) :
    Reads lexis seen (gap ++ (token ++ rest)) (⟨gap,token⟩ :: pieces) ↔
      skips (seen.isEmpty || gap.any endsLine) (token ++ rest) = false ∧
        lexis.Longest (lexis.slashOpens seen) token rest ∧
        Reads lexis ((⟨gap,token⟩ : Piece).seen seen) rest pieces := by
  rw [readsNext]
  constructor
  · rintro ⟨other,passes,longest,reads⟩
    obtain ⟨parts,settled⟩ := Lexis.passesParts passes
    rw [List.append_cancel_left_eq,List.append_cancel_left_eq] at parts
    subst parts
    exact ⟨settled,longest,reads⟩
  · rintro ⟨settled,longest,reads⟩
    exact ⟨rest,(Lexis.passesBlanks blank).mpr settled,longest,reads⟩

theorem readsNothing : Reads lexis seen [] [] :=
  .done (.done (by cases seen.isEmpty <;> rfl))

end reading

section parting

theorem separatorKinds (left gap right : Text) :
    separator left gap right = [] ∨ ∃ c, separator left gap right = [c] ∧ (c = ' ' ∨ c = '\n') := by
  rw [separator]
  split
  · exact .inr ⟨'\n',rfl,.inr rfl⟩
  split
  · exact .inr ⟨' ',rfl,.inl rfl⟩
  · exact .inl rfl

theorem separatorBlank (left gap right : Text) : ∀ c ∈ separator left gap right, isGap c = true := by
  intro c known
  rcases separatorKinds left gap right with same | ⟨d,same,blank⟩
  · rw [same] at known
    nomatch known
  · rw [same,List.mem_singleton] at known
    subst known
    rcases blank with rfl | rfl <;> rfl

theorem separatorBroken (left gap right : Text) :
    (separator left gap right).any endsLine = true ↔ '\n' ∈ gap := by
  rw [separator]
  split
  · rename_i line
    simpa [endsLine] using line
  · rename_i line
    have line : ¬ '\n' ∈ gap := by simpa using line
    split <;> simp [line,endsLine,isLineSeparator]

variable {lexis : Lexis} {seen : Seen} {text gap left : Text} {piece : Piece} {pieces : List Piece}

theorem brokenKept : (separator left piece.gap piece.token).any endsLine = piece.broken ↔
    (piece.broken = true → '\n' ∈ piece.gap) := by
  have line : '\n' ∈ piece.gap → piece.broken = true := fun line => List.any_eq_true.mpr ⟨'\n',line,rfl⟩
  rw [Bool.eq_iff_iff,separatorBroken]
  exact ⟨fun same => same.mpr,fun kept => ⟨line,kept⟩⟩

theorem escapesAhead {slashOpens : Bool} {right source more : Text}
    (longest : lexis.Longest slashOpens right source) :
    lexis.Escapes (separator left gap right ++ (right ++ more)) := by
  rcases separatorKinds left gap right with same | ⟨c,same,blank⟩
  · rw [same,List.nil_append]
    exact Lexis.escapesToken longest
  · rw [same]
    intro tail parts
    rcases blank with rfl | rfl <;> nomatch parts

theorem separatorInline (left right : Text) (inline : '\n' ∉ gap) :
    separator left gap right = if !gap.isEmpty && needsSpace left right then [' '] else [] := by
  rw [separator,if_neg (by simpa using inline)]

section behind

variable {right : Piece} {fresh slashOpens : Bool} {source more behind : Text}

theorem runsGluesMark {mark : Text} (scanned : lexis.scan (lexis.slashOpens seen) piece.token = some (.mark mark))
    (longest : lexis.Longest (lexis.slashOpens seen) piece.token source)
    (settled : skips (seen.isEmpty || piece.broken) (piece.token ++ source) = false)
    (rightLongest : lexis.Longest slashOpens right.token more) (inline : '\n' ∉ right.gap) :
    lexis.runs seen piece (separator piece.token right.gap right.token ++ (right.token ++ behind)) =
      lexis.glues seen piece right behind := by
  have known : piece.token ∈ Lexis.marks := by
    rw [← Lexis.markText scanned]
    simpa [Lexis.State.isWhole] using ((Lexis.scanFits scanned).mp longest.fits).1
  have spaced : needsSpace piece.token right.token = Lexis.signed piece.token right.token := by
    obtain ⟨d,rest,same⟩ := List.exists_cons_of_ne_nil (Lexis.longestNonempty rightLongest)
    rw [same]
    exact Lexis.markSpaced known
  rw [separatorInline _ _ inline,Lexis.gluesMark scanned,spaced]
  cases right.gap.isEmpty with
  | true => rfl
  | false =>
    cases Lexis.signed piece.token right.token with
    | true => exact Lexis.runsBlank longest settled (.inl rfl)
    | false => rfl

theorem runsGluesUnmarked {state : Lexis.State}
    (scanned : lexis.scan (lexis.slashOpens seen) piece.token = some state)
    (unmarked : ∀ mark, state ≠ .mark mark) (longest : lexis.Longest (lexis.slashOpens seen) piece.token source)
    (settled : skips (seen.isEmpty || piece.broken) (piece.token ++ source) = false)
    (passes : Passes fresh source right.gap (right.token ++ more))
    (rightLongest : lexis.Longest slashOpens right.token more) (inline : '\n' ∉ right.gap) :
    lexis.runs seen piece (separator piece.token right.gap right.token ++ (right.token ++ behind)) =
      lexis.glues seen piece right behind := by
  have whole := ((Lexis.scanFits scanned).mp longest.fits).1
  obtain ⟨d,rest,next⟩ := List.exists_cons_of_ne_nil (Lexis.longestNonempty rightLongest)
  rw [separatorInline _ _ inline,Lexis.gluesUnmarked scanned unmarked]
  cases gapped : right.gap.isEmpty with
  | true =>
    obtain ⟨parts,_⟩ := Lexis.passesParts passes
    rw [List.isEmpty_iff.mp gapped,List.nil_append] at parts
    subst parts
    have stays := Lexis.longestGrows scanned (Lexis.escapesToken rightLongest) longest
    show lexis.runs seen piece (right.token ++ behind) = false
    rw [Lexis.runsUnmarked scanned whole unmarked settled]
    rw [next,List.cons_append] at stays ⊢
    rw [Lexis.growsHead unmarked]
    exact stays
  | false =>
    obtain ⟨token,c,last⟩ := (List.eq_nil_or_concat piece.token).resolve_left (Lexis.longestNonempty longest)
    rw [List.concat_eq_append] at last
    cases spaced : needsSpace piece.token right.token with
    | true =>
      have unslipped : state.slips lexis piece.token right.token = false := by
        rw [last,next] at spaced ⊢
        rw [← Bool.not_eq_true]
        intro slips
        rw [Lexis.slipsUnspaced slips] at spaced
        nomatch spaced
      rw [unslipped]
      exact Lexis.runsBlank longest settled (.inl rfl)
    | false =>
      show lexis.runs seen piece (right.token ++ behind) = state.slips lexis piece.token right.token
      rw [Lexis.runsUnmarked scanned whole unmarked settled]
      rw [last] at scanned
      rw [last,next] at spaced ⊢
      exact Lexis.unspacedGrows scanned whole unmarked spaced

theorem runsGlues (longest : lexis.Longest (lexis.slashOpens seen) piece.token source)
    (settled : skips (seen.isEmpty || piece.broken) (piece.token ++ source) = false)
    (passes : Passes fresh source right.gap (right.token ++ more))
    (rightLongest : lexis.Longest slashOpens right.token more) :
    lexis.runs seen piece (separator piece.token right.gap right.token ++ (right.token ++ behind)) = false ↔
      ('\n' ∉ right.gap → lexis.glues seen piece right behind = false) := by
  by_cases line : '\n' ∈ right.gap
  · have separated : separator piece.token right.gap right.token = ['\n'] := by
      rw [separator,if_pos (by simpa using line)]
    rw [separated]
    exact iff_of_true (Lexis.runsBlank longest settled (.inr rfl)) fun inline => absurd line inline
  · have same : lexis.runs seen piece (separator piece.token right.gap right.token ++ (right.token ++ behind)) =
        lexis.glues seen piece right behind := by
      rcases longest.fits with template | ⟨state,scanned,_⟩
      · rw [Lexis.runsTemplate template,Lexis.gluesTemplate template]
      · cases state with
        | mark mark => exact runsGluesMark scanned longest settled rightLongest line
        | _ => exact runsGluesUnmarked scanned (by simp) longest settled passes rightLongest line
    rw [same]
    exact ⟨fun stays _ => stays,fun stays => stays line⟩

end behind

theorem seenSame (same : seen ≠ [] → gap.any endsLine = piece.broken) :
    (⟨gap,piece.token⟩ : Piece).seen seen = piece.seen seen ∧
      (seen.isEmpty || gap.any endsLine) = (seen.isEmpty || piece.broken) := by
  cases seen with
  | nil => exact ⟨rfl,rfl⟩
  | cons first others =>
    rw [← same (by simp)]
    exact ⟨by rw [Piece.seen,Piece.seen,← same (by simp)]; rfl,rfl⟩

theorem readsStanding {source rest : Text} (longest : lexis.Longest (lexis.slashOpens seen) piece.token source)
    (escapes : lexis.Escapes rest) (blank : ∀ c ∈ gap, isGap c = true)
    (same : seen ≠ [] → gap.any endsLine = piece.broken) :
    Reads lexis seen (gap ++ (piece.token ++ rest)) (⟨gap,piece.token⟩ :: pieces) ↔
      lexis.runs seen piece rest = false ∧ Reads lexis (piece.seen seen) rest pieces := by
  obtain ⟨sameSeen,sameFresh⟩ := seenSame same
  rw [Lexis.staysIff longest escapes,← sameSeen,← sameFresh,and_assoc]
  exact readsBlank blank

/- By induction on the pieces: each is read where it stands if it does not run into what follows, and
with the same line ends the pieces behind it are read by the same rules. -/
theorem partedReads (reads : Reads lexis seen text (piece :: pieces)) (blank : ∀ c ∈ gap, isGap c = true)
    (same : seen ≠ [] → gap.any endsLine = piece.broken) :
    (Reads lexis seen (gap ++ (piece.token ++ writtenAfter piece.token pieces))
        (⟨gap,piece.token⟩ :: partedAfter piece.token pieces) ∧
      (partedAfter piece.token pieces).map Piece.broken = pieces.map Piece.broken) ↔
    Kept lexis seen (piece :: pieces) := by
  induction pieces generalizing seen text gap piece with
  | nil =>
    obtain ⟨source,passes,longest,_⟩ := readsNext.mp reads
    have stays := Lexis.runsEnd longest (Lexis.passesParts passes).2
    have escapes : lexis.Escapes [] := fun _ parts => nomatch parts
    exact iff_of_true ⟨(readsStanding longest escapes blank same).mpr ⟨stays,readsNothing⟩,rfl⟩ trivial
  | cons right pieces ih =>
    obtain ⟨source,passes,longest,behind⟩ := readsNext.mp reads
    obtain ⟨_,rightPasses,rightLongest,_⟩ := readsNext.mp behind
    have settled := (Lexis.passesParts passes).2
    have broken : (⟨separator piece.token right.gap right.token,right.token⟩ : Piece).broken = right.broken ↔
        (right.broken = true → '\n' ∈ right.gap) := brokenKept
    rw [writtenAfter,partedAfter,readsStanding longest (escapesAhead rightLongest) blank same,
      runsGlues longest settled rightPasses rightLongest,List.map_cons,List.map_cons,List.cons.injEq,broken,Kept]
    constructor
    · rintro ⟨⟨stays,reads⟩,line,lines⟩
      exact ⟨line,stays,(ih behind (separatorBlank _ _ _) fun _ => broken.mpr line).mp ⟨reads,lines⟩⟩
    · rintro ⟨line,stays,kept⟩
      obtain ⟨reads,lines⟩ := (ih behind (separatorBlank _ _ _) fun _ => broken.mpr line).mpr kept
      exact ⟨⟨stays,reads⟩,line,lines⟩

end parting

section placing

variable {lexis : Lexis} {seen : Seen} {text gap : Text} {piece : Piece} {pieces again : List Piece}

def Solid (token : Text) : Prop := ∃ c rest, token = c :: rest ∧ isGap c = false

theorem readsSolid (reads : Reads lexis seen text pieces) : ∀ piece ∈ pieces, Solid piece.token := by
  induction reads with
  | done passes => nofun
  | next passes longest reads ih =>
    rename_i piece rest pieces
    refine List.forall_mem_cons.mpr ⟨?_,ih⟩
    have settled := (Lexis.passesParts passes).2
    cases token : piece.token with
    | nil => exact absurd token (Lexis.longestNonempty longest)
    | cons c tail =>
      rw [token,skips,Bool.or_eq_false_iff] at settled
      exact ⟨c,tail,rfl,settled.1⟩

theorem blankCut {other token more rest : Text} (solid : Solid token) (blank : ∀ c ∈ gap, isGap c = true)
    (bare : ∀ c ∈ other, isGap c = true) (same : gap ++ (token ++ more) = other ++ (token ++ rest)) :
    gap = other ∧ more = rest := by
  obtain ⟨c,tail,rfl,full⟩ := solid
  have cut := congrArg (List.takeWhile isGap) same
  rw [List.takeWhile_append_of_pos blank,List.takeWhile_append_of_pos bare] at cut
  simp only [List.cons_append,List.takeWhile_cons,full,Bool.false_eq_true,if_false,List.append_nil] at cut
  subst cut
  rw [List.append_cancel_left_eq,List.append_cancel_left_eq] at same
  exact ⟨rfl,same⟩

theorem alikeParted (solid : ∀ other ∈ piece :: pieces, Solid other.token)
    (blank : ∀ c ∈ gap, isGap c = true) (reads : Reads lexis seen (gap ++ (piece.token ++ writtenAfter piece.token pieces)) again)
    (tokens : again.map Piece.token = (piece :: pieces).map Piece.token)
    (bare : ∀ other ∈ again, ∀ c ∈ other.gap, isGap c = true) :
    again = ⟨gap,piece.token⟩ :: partedAfter piece.token pieces := by
  induction pieces generalizing seen gap piece again with
  | nil =>
    obtain ⟨⟨other,_⟩,rfl,rfl⟩ := List.map_eq_singleton_iff.mp tokens
    obtain ⟨rest,passes,_,_⟩ := readsNext.mp reads
    have place := blankCut (solid piece List.mem_cons_self) blank (bare _ List.mem_cons_self)
      (Lexis.passesParts passes).1
    rw [place.1]
    rfl
  | cons right pieces ih =>
    obtain ⟨⟨other,_⟩,after,rfl,rfl,others⟩ := List.map_eq_cons_iff.mp tokens
    obtain ⟨rest,passes,_,reads⟩ := readsNext.mp reads
    obtain ⟨rfl,rfl⟩ := blankCut (solid piece List.mem_cons_self) blank (bare _ List.mem_cons_self)
      (Lexis.passesParts passes).1
    have behind := ih (fun other known => solid other (List.mem_cons_of_mem _ known)) (separatorBlank _ _ _) reads
      others fun other known => bare other (List.mem_cons_of_mem _ known)
    rw [behind,partedAfter]

end placing

theorem partedTokens (left : Text) (pieces : List Piece) :
    (partedAfter left pieces).map Piece.token = pieces.map Piece.token := by
  induction pieces generalizing left with
  | nil => rfl
  | cons piece pieces ih => rw [partedAfter,List.map_cons,List.map_cons,ih]

theorem partedBare (left : Text) (pieces : List Piece) :
    ∀ piece ∈ partedAfter left pieces, ∀ c ∈ piece.gap, isGap c = true := by
  induction pieces generalizing left with
  | nil => nofun
  | cons piece pieces ih => exact List.forall_mem_cons.mpr ⟨separatorBlank _ _ _,ih _⟩

theorem writtenAlikeIff {lexis : Lexis} {text : Text} {pieces : List Piece} (reads : Reads lexis [] text pieces) :
    (∃ again, Reads lexis [] (written pieces) again ∧ Alike pieces again) ↔ Kept lexis [] pieces := by
  cases pieces with
  | nil => exact iff_of_true ⟨[],readsNothing,rfl,rfl,nofun⟩ trivial
  | cons piece pieces =>
    have blank : ∀ c ∈ ([] : Text), isGap c = true := nofun
    have parted := partedReads reads blank fun behind => absurd rfl behind
    constructor
    · rintro ⟨again,readAgain,alike⟩
      obtain rfl := alikeParted (readsSolid reads) blank readAgain alike.tokens alike.bare
      exact parted.mp ⟨readAgain,alike.breaks⟩
    · intro kept
      obtain ⟨readAgain,lines⟩ := parted.mpr kept
      refine ⟨_,readAgain,?_,lines,?_⟩
      · rw [List.map_cons,List.map_cons,partedTokens]
      · exact List.forall_mem_cons.mpr ⟨nofun,partedBare _ _⟩

/- A minified script is read again as the same tokens with the same line ends exactly if it keeps them. -/
theorem alikeIff {lexis : Lexis} {text : Text} {root : Node} {pieces : List Piece}
    (reads : Reads lexis [] text pieces) (tokenised : tokens root = ranges 0 pieces) :
    (∃ again, Reads lexis [] (minify text root) again ∧ Alike pieces again) ↔ Kept lexis [] pieces := by
  obtain ⟨last,rfl⟩ := readsSpelled reads
  rw [minify,tokenised,joinWritten]
  exact writtenAlikeIff reads

section sample

theorem passesSpace {fresh : Bool} {text : Text} (settled : skips (fresh || [' '].any endsLine) text = false) :
    Passes fresh ([' '] ++ text) [' '] text :=
  (Lexis.passesBlanks (List.all_eq_true.mp rfl)).mpr settled

theorem readsHere {lexis : Lexis} {seen : Seen} {pieces : List Piece} (gap token rest : Text)
    (state : Lexis.State) (scanned : lexis.scan (lexis.slashOpens seen) token = some state)
    (whole : state.isWhole = true) (stays : lexis.runs seen ⟨gap,token⟩ rest = false)
    (passes : skips (seen.isEmpty || gap.any endsLine) (token ++ rest) = false →
      Passes seen.isEmpty (gap ++ (token ++ rest)) gap (token ++ rest))
    (behind : Reads lexis ((⟨gap,token⟩ : Piece).seen seen) rest pieces) :
    Reads lexis seen (gap ++ (token ++ rest)) (⟨gap,token⟩ :: pieces) := by
  rw [Lexis.runs,scanned,Bool.or_eq_false_iff] at stays
  exact .next (passes stays.1) (Lexis.longestStays scanned whole stays.2) behind

def plain : Lexis where
  opens _ := false
  continues _ := false
  slashOpens seen := !(seen.getLast?.any fun (_,token) => token.getLast?.any fun c => isMarkupPart c || c == ')')
  template _ := False
  ticked := False.elim
  whole := False.elim

def leaf (place : Nat × Nat) : Node := ⟨"leaf",true,none,place.1,place.2,false,false,0,[]⟩

def program (places : List (Nat × Nat)) : Node :=
  ⟨"program",true,none,0,0,false,false,0,places.map leaf⟩

theorem leafTokens {place : Nat × Nat} (full : place.1 < place.2) : tokens (leaf place) = [place] := by
  rw [tokens]
  simp [leaf,full]

theorem leavesTokens {places : List (Nat × Nat)} (full : ∀ place ∈ places, place.1 < place.2) :
    tokensOf (places.map leaf) = places := by
  induction places with
  | nil => rw [List.map_nil,tokensOf]
  | cons place places ih =>
    rw [List.map_cons,tokensOf,leafTokens (full place List.mem_cons_self),
      ih fun other known => full other (List.mem_cons_of_mem _ known)]
    rfl

theorem programTokens {places : List (Nat × Nat)} (nonempty : places ≠ [])
    (full : ∀ place ∈ places, place.1 < place.2) : tokens (program places) = places := by
  rw [tokens]
  simp [program,nonempty,isAtomic,leavesTokens full]

def sums : Text := "a/*\n*/+ /b/g in c".toList

def sumsPieces : List Piece :=
  [⟨[],"a".toList⟩,⟨"/*\n*/".toList,"+".toList⟩,⟨" ".toList,"/b/g".toList⟩,⟨" ".toList,"in".toList⟩,
    ⟨" ".toList,"c".toList⟩]

theorem sumsReads : Reads plain [] sums sumsPieces := by
  refine readsHere [] ['a'] "/*\n*/+ /b/g in c".toList (.word .whole) rfl rfl rfl .done ?_
  refine readsHere "/*\n*/".toList ['+'] " /b/g in c".toList (.mark ['+']) rfl rfl rfl ?_ ?_
  · exact fun settled => @Passes.block _ ['\n'] _ _ _ (by decide) (.done settled)
  refine readsHere [' '] "/b/g".toList " in c".toList (.pattern .flags) rfl rfl rfl passesSpace ?_
  refine readsHere [' '] "in".toList " c".toList (.word .whole) rfl rfl rfl passesSpace ?_
  refine readsHere [' '] ['c'] [] (.word .whole) rfl rfl rfl passesSpace ?_
  exact readsNothing

theorem alikeIffSums :
    Reads plain [] sums sumsPieces ∧ tokens (program (ranges 0 sumsPieces)) = ranges 0 sumsPieces ∧
      minify sums (program (ranges 0 sumsPieces)) = "a\n+/b/g in c".toList ∧
      ∃ again, Reads plain [] "a\n+/b/g in c".toList again ∧ Alike sumsPieces again := by
  have tokenised : tokens (program (ranges 0 sumsPieces)) = ranges 0 sumsPieces :=
    programTokens (by decide) (by decide)
  have minified : minify sums (program (ranges 0 sumsPieces)) = "a\n+/b/g in c".toList := by
    rw [minify,tokenised]
    rfl
  exact ⟨sumsReads,tokenised,minified,minified ▸ (alikeIff sumsReads tokenised).mpr (by decide)⟩

def flagless : List Piece := [⟨[],"/a/".toList⟩,⟨[' '],"in".toList⟩,⟨[' '],['b']⟩]

theorem flaglessGlued : ∃ (lexis : Lexis) (text : Text) (root : Node) (pieces : List Piece),
    Reads lexis [] text pieces ∧ tokens root = ranges 0 pieces ∧
      ¬ ∃ again, Reads lexis [] (minify text root) again ∧ again.map Piece.token = pieces.map Piece.token := by
  have tokenised : tokens (program (ranges 0 flagless)) = ranges 0 flagless :=
    programTokens (by decide) (by decide)
  have minified : minify "/a/ in b".toList (program (ranges 0 flagless)) = "/a/in b".toList := by
    rw [minify,tokenised]
    rfl
  refine ⟨plain,"/a/ in b".toList,program (ranges 0 flagless),flagless,?_,tokenised,?_⟩
  · refine readsHere [] "/a/".toList " in b".toList (.pattern .flags) rfl rfl rfl .done ?_
    refine readsHere [' '] "in".toList " b".toList (.word .whole) rfl rfl rfl passesSpace ?_
    refine readsHere [' '] ['b'] [] (.word .whole) rfl rfl rfl passesSpace ?_
    exact readsNothing
  · rw [minified]
    rintro ⟨again,reads,tokens⟩
    obtain ⟨⟨gap,_⟩,others,rfl,rfl,_⟩ := List.map_eq_cons_iff.mp tokens
    obtain ⟨rest,passes,longest,_⟩ := readsNext.mp reads
    obtain ⟨rfl,parts⟩ := Lexis.passesSettled rfl passes
    have behind : "/a/".toList ++ "in b".toList = "/a/".toList ++ rest := parts
    obtain rfl := List.append_cancel_left behind
    have scanned : plain.scan (plain.slashOpens []) "/a/".toList = some (.pattern .flags) := rfl
    have escapes : plain.Escapes "in b".toList := fun _ parts => nomatch parts
    nomatch Lexis.longestGrows scanned escapes longest

end sample

end Minify

end ScriptConsole.Script
