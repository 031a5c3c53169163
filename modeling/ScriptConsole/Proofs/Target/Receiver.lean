import ScriptConsole.Target.Names
import ScriptConsole.Proofs.Text.Line

/-! Whose names a completion lists. The receiver is read off the run of identifier characters and dots
that stands before the last dot, less the dots at its ends. It is the one that was typed where that run
is a chain of names. A run that begins with a dot goes on from a call, an index or a parenthesis, and
there the end of the chain is taken for the whole. -/
namespace ScriptConsole.Names
open Text (isWord)

def chainChar (c : Char) : Bool := isWord c || c == '.'

inductive Chain : Text → Prop
  | name {t : Text} (content : t ≠ []) (word : t.all isWord = true) : Chain t
  | member {owner t : Text} (chain : Chain owner) (content : t ≠ []) (word : t.all isWord = true) :
      Chain (owner ++ '.' :: t)

def Apart (pre : Text) : Prop := ∀ c ∈ pre.getLast?, chainChar c = false

def Typed (context e : Text) : Prop := ∃ pre, context = pre ++ e ++ ['.'] ∧ Apart pre ∧ Chain e

def lastRun (before : Text) : Text := before.rtakeWhile chainChar

def Unbroken (context : Text) : Prop := ∃ before, context = before ++ ['.'] ∧ Chain (lastRun before)

def Dots (t : Text) : Prop := ∀ c ∈ t, c = '.'

structure Framed (e : Text) : Prop where
  content : e ≠ []
  chars : ∀ c ∈ e, chainChar c = true
  front : e.head? ≠ some '.'
  back : e.getLast? ≠ some '.'

theorem apartAt (front : Text) {c : Char} (off : chainChar c = false) : Apart (front ++ [c]) := by
  intro d last
  rw [List.getLast?_concat] at last
  cases last
  exact off

/-! ## Chains -/

theorem wordChars {t : Text} (word : t.all isWord = true) : ∀ c ∈ t, chainChar c = true := by
  intro c inside
  simp [chainChar,List.all_eq_true.mp word c inside]

theorem wordFramed {t : Text} (content : t ≠ []) (word : t.all isWord = true) : Framed t := by
  have dot : '.' ∉ t := by
    intro inside
    exact absurd (List.all_eq_true.mp word '.' inside) (by decide)
  exact ⟨content,wordChars word,fun first => dot (List.mem_of_head? first),
    fun last => dot (List.mem_of_getLast? last)⟩

theorem chainFramed {t : Text} (chain : Chain t) : Framed t := by
  induction chain with
  | name content word => exact wordFramed content word
  | @member owner t chain content word ih =>
    have last := wordFramed content word
    refine ⟨by simp,?_,?_,?_⟩
    · intro c inside
      rcases List.mem_append.mp inside with before | after
      · exact ih.chars c before
      · rcases List.mem_cons.mp after with rfl | name
        · rfl
        · exact last.chars c name
    · rw [List.head?_append_of_ne_nil _ ih.content]
      exact ih.front
    · have parts : owner ++ '.' :: t = (owner ++ ['.']) ++ t := by simp
      rw [parts,List.getLast?_append_of_ne_nil _ content]
      exact last.back

/-! ## The run before the last dot -/

theorem lastRunParts (before : Text) :
    ∃ pre, before = pre ++ lastRun before ∧ Apart pre ∧ ∀ c ∈ lastRun before, chainChar c = true :=
  ⟨before.rdropWhile chainChar,List.rdropWhile_append_rtakeWhile.symm,fun _ last => Text.cutEnds last,
    fun _ inside => List.mem_rtakeWhile_imp inside⟩

theorem lastRunAt {pre run : Text} (apart : Apart pre) (chars : ∀ c ∈ run, chainChar c = true) :
    lastRun (pre ++ run) = run := by
  induction run using List.reverseRecOn with
  | nil =>
    rw [List.append_nil]
    exact List.rtakeWhile_eq_nil_iff.mpr fun some => by simp [apart _ (List.getLast_mem_getLast? some)]
  | append_singleton run c ih =>
    have last := chars c (by simp)
    rw [lastRun,← List.append_assoc,List.rtakeWhile_concat_pos chainChar _ c last]
    rw [show (pre ++ run).rtakeWhile chainChar = run from ih fun d inside => chars d (by simp [inside])]

/-! ## The dots at its ends -/

theorem dropDots {lead rest : Text} (dots : Dots lead) (stops : rest.head? ≠ some '.') :
    (lead ++ rest).dropWhile (· == '.') = rest := by
  have all : ∀ c ∈ lead, (c == '.') = true := fun c inside => beq_iff_eq.mpr (dots c inside)
  rw [List.dropWhile_append_of_pos all]
  cases rest with
  | nil => rfl
  | cons c more => simp [show c ≠ '.' by simpa using stops]

theorem dotsDropped (t : Text) :
    ∃ lead, t = lead ++ t.dropWhile (· == '.') ∧ Dots lead ∧ (t.dropWhile (· == '.')).head? ≠ some '.' := by
  refine ⟨t.takeWhile (· == '.'),List.takeWhile_append_dropWhile.symm,?_,?_⟩
  · intro c inside
    have dot := List.mem_takeWhile_imp inside
    exact beq_iff_eq.mp dot
  · intro first
    have off := List.head?_dropWhile_not (· == '.') t
    rw [first] at off
    contradiction

theorem trimDotsFramed {lead e trail : Text} (leading : Dots lead) (trailing : Dots trail) (framed : Framed e) :
    trimDots (lead ++ e ++ trail) = e := by
  have front : (e ++ trail).head? ≠ some '.' := by
    rw [List.head?_append_of_ne_nil _ framed.content]
    exact framed.front
  have back : e.reverse.head? ≠ some '.' := by rw [List.head?_reverse]; exact framed.back
  have flipped : Dots trail.reverse := fun c inside => trailing c (List.mem_reverse.mp inside)
  rw [trimDots,List.append_assoc,dropDots leading front,List.reverse_append,dropDots flipped back,
    List.reverse_reverse]

theorem trimDotsParts (t : Text) :
    ∃ lead trail, t = lead ++ trimDots t ++ trail ∧ Dots lead ∧ Dots trail ∧
      (trimDots t).head? ≠ some '.' ∧ (trimDots t).getLast? ≠ some '.' := by
  obtain ⟨lead,whole,leading,front⟩ := dotsDropped t
  obtain ⟨trail,parts,trailing,back⟩ := dotsDropped (t.dropWhile (· == '.')).reverse
  have kept : t.dropWhile (· == '.') = trimDots t ++ trail.reverse := by
    have flipped := congrArg List.reverse parts
    rwa [List.reverse_append,List.reverse_reverse] at flipped
  refine ⟨lead,trail.reverse,?_,leading,fun c inside => trailing c (List.mem_reverse.mp inside),?_,?_⟩
  · rw [List.append_assoc,← kept]
    exact whole
  · intro first
    rw [kept,List.head?_append,first] at front
    exact front rfl
  · rw [trimDots,List.getLast?_reverse]
    exact back

/-! ## The receiver -/

theorem objectExpressionDot (before : Text) :
    objectExpression? (before ++ ['.']) =
      if (trimDots (lastRun before)).isEmpty then none else some (trimDots (lastRun before)) := by
  simp only [objectExpression?,List.reverse_append,List.reverse_singleton,List.singleton_append]
  rfl

theorem objectExpressionEnds {context e : Text} (found : objectExpression? context = some e) :
    ∃ before, context = before ++ ['.'] := by
  unfold objectExpression? at found
  split at found
  · rename_i before ends
    exact ⟨before.reverse,by rw [List.reverse_eq_iff.mp ends,List.reverse_cons]⟩
  · contradiction

theorem objectExpressionIff (context e : Text) :
    objectExpression? context = some e ↔
      ∃ pre lead trail, context = pre ++ (lead ++ e ++ trail) ++ ['.'] ∧ Apart pre ∧ Dots lead ∧ Dots trail ∧
        Framed e := by
  constructor
  · intro found
    obtain ⟨before,rfl⟩ := objectExpressionEnds found
    rw [objectExpressionDot] at found
    split at found
    · contradiction
    · rename_i some
      cases found
      obtain ⟨pre,whole,apart,chars⟩ := lastRunParts before
      obtain ⟨lead,trail,parts,leading,trailing,front,back⟩ := trimDotsParts (lastRun before)
      refine ⟨pre,lead,trail,by rw [← parts,← whole],apart,leading,trailing,?_,?_,front,back⟩
      · rwa [List.isEmpty_iff] at some
      · intro c inside
        rw [parts] at chars
        exact chars c (by simp [inside])
  · rintro ⟨pre,lead,trail,rfl,apart,leading,trailing,framed⟩
    have dots {t : Text} (all : Dots t) : ∀ c ∈ t, chainChar c = true := by
      intro c inside
      rw [all c inside]
      rfl
    have chars : ∀ c ∈ lead ++ e ++ trail, chainChar c = true := by
      intro c inside
      rcases List.mem_append.mp inside with front | back
      · rcases List.mem_append.mp front with front | within
        · exact dots leading c front
        · exact framed.chars c within
      · exact dots trailing c back
    rw [objectExpressionDot,lastRunAt apart chars,trimDotsFramed leading trailing framed,
      if_neg (by simpa using framed.content)]

theorem chainRun {before : Text} (chain : Chain (lastRun before)) :
    objectExpression? (before ++ ['.']) = some (lastRun before) := by
  have none : Dots [] := nofun
  have whole : trimDots (lastRun before) = lastRun before := by
    simpa using trimDotsFramed none none (chainFramed chain)
  rw [objectExpressionDot,whole,if_neg (by simpa using (chainFramed chain).content)]

theorem typedRun {before e : Text} (typed : Typed (before ++ ['.']) e) : lastRun before = e ∧ Chain e := by
  obtain ⟨pre,whole,apart,chain⟩ := typed
  rw [List.append_cancel_right whole]
  exact ⟨lastRunAt apart (chainFramed chain).chars,chain⟩

theorem chainCut {pre e : Text} (apart : Apart pre) (chain : Chain e) :
    objectExpression? (pre ++ '.' :: e ++ ['.']) = some e ∧ ¬ Typed (pre ++ '.' :: e ++ ['.']) e := by
  have framed := chainFramed chain
  have dot : Dots ['.'] := fun c inside => List.mem_singleton.mp inside
  refine ⟨(objectExpressionIff _ e).mpr ⟨pre,['.'],[],by simp,apart,dot,nofun,framed⟩,fun typed => ?_⟩
  have chars : ∀ c ∈ '.' :: e, chainChar c = true := by
    intro c inside
    rcases List.mem_cons.mp inside with rfl | within
    · rfl
    · exact framed.chars c within
  have run := (typedRun typed).1
  rw [lastRunAt apart chars] at run
  exact List.cons_ne_self '.' e run

/- The receiver that was typed is always found, and what is found was typed just where the run is
unbroken. -/
theorem receiverTypedIff (context e : Text) :
    (Typed context e ↔ objectExpression? context = some e ∧ Unbroken context) ∧
      ∀ pre, context = pre ++ '.' :: e ++ ['.'] → Apart pre → Chain e →
        objectExpression? context = some e ∧ ¬ Typed context e := by
  refine ⟨⟨?_,?_⟩,?_⟩
  · intro typed
    obtain ⟨pre,rfl,_⟩ := id typed
    obtain ⟨run,chain⟩ := typedRun typed
    rw [← run] at chain
    exact ⟨by rw [chainRun chain,run],pre ++ e,rfl,chain⟩
  · rintro ⟨found,before,rfl,chain⟩
    rw [chainRun chain] at found
    cases found
    obtain ⟨pre,whole,apart,_⟩ := lastRunParts before
    exact ⟨pre,by rw [← whole],apart,chain⟩
  · rintro pre rfl apart chain
    exact chainCut apart chain

theorem receiverTypedIndexed :
    Typed "x = a.b.".toList "a.b".toList ∧ objectExpression? "x = a.b.".toList = some "a.b".toList ∧
      Apart "a[0]".toList ∧ Chain ['b'] ∧ objectExpression? "a[0].b.".toList = some ['b'] ∧
      ¬ Typed "a[0].b.".toList ['b'] := by
  have space : Apart "x = ".toList := apartAt "x =".toList (by decide)
  have bracket : Apart "a[0]".toList := apartAt "a[0".toList (by decide)
  have chain : Chain ['b'] := .name (by decide) (by decide)
  have owner : Chain ['a'] := .name (by decide) (by decide)
  have typed : Typed "x = a.b.".toList "a.b".toList :=
    ⟨"x = ".toList,rfl,space,.member owner (by decide) (by decide)⟩
  exact ⟨typed,((receiverTypedIff _ _).1.mp typed).1,bracket,chain,
    (receiverTypedIff _ ['b']).2 "a[0]".toList rfl bracket chain⟩

theorem calledReceiverCut :
    objectExpression? "f().a.".toList = some ['a'] ∧ ¬ Typed "f().a.".toList ['a'] := by
  have called : Apart "f()".toList := apartAt "f(".toList (by decide)
  have chain : Chain ['a'] := .name (by decide) (by decide)
  exact chainCut called chain

end ScriptConsole.Names
