import ScriptConsole.Proofs.Edit.Keys

/-! What a paste brings in. Every line break of the pasted text becomes one newline, and no other
character that controls a terminal is left; a text that is like that already stays as it is. A text may
be pasted in pieces, unless it is cut between the two characters of one line break. -/
namespace ScriptConsole

namespace Text

/- Each carriage return and each newline is a line break, and the two together, in this order, are one. -/
def lineBreaks (t : Text) : Nat := t.count '\r' + t.count '\n' - (t.zip t.tail).count ('\r','\n')

def Clean (t : Text) : Prop := ∀ c ∈ t, isControl c = true → c = '\n'

def CutsBreak (front back : Text) : Prop := front.getLast? = some '\r' ∧ back.head? = some '\n'

end Text

namespace Editor
open Buffer (parts insertParts)
open Text (isControl lineBreaks Clean CutsBreak)

/-! ## Character by character -/

def cleaned (c : Char) : Text :=
  if c = '\t' then spaces indentWidth
  else if c = '\r' || c = '\n' then ['\n']
  else if isControl c then []
  else [c]

theorem normalizePair (rest : Text) : normalize ('\r' :: '\n' :: rest) = normalize ('\n' :: rest) := by
  rw [normalize,normalize,if_neg (by decide),if_pos (by decide)]
  exact fun _ h => absurd h (by decide)

theorem normalizeCons {c : Char} {rest : Text} (apart : ¬ (c = '\r' ∧ rest.head? = some '\n')) :
    normalize (c :: rest) = cleaned c ++ normalize rest := by
  have single : ∀ more, c = '\r' → rest = '\n' :: more → False := by
    rintro more return_ rfl
    exact apart ⟨return_,rfl⟩
  rw [normalize,cleaned]
  · split_ifs <;> rfl
  · exact single

theorem normalizeAppend {front back : Text} (apart : ¬ CutsBreak front back) :
    normalize (front ++ back) = normalize front ++ normalize back := by
  induction front with
  | nil => rw [normalize,List.nil_append,List.nil_append]
  | cons c front ih =>
    cases front with
    | nil =>
      have last : ¬ (c = '\r' ∧ back.head? = some '\n') := fun both => apart ⟨by rw [both.1]; rfl,both.2⟩
      have alone : ¬ (c = '\r' ∧ ([] : Text).head? = some '\n') := by simp
      rw [List.singleton_append,normalizeCons last,normalizeCons alone,normalize,List.append_nil]
    | cons d front =>
      have later : ¬ CutsBreak (d :: front) back := by
        rintro ⟨last,first⟩
        exact apart ⟨by rw [List.getLast?_cons_cons,last],first⟩
      have rest := ih later
      by_cases pair : c = '\r' ∧ d = '\n'
      · obtain ⟨rfl,rfl⟩ := pair
        rw [List.cons_append,List.cons_append,normalizePair,normalizePair]
        exact rest
      · have first : ∀ more : Text, ¬ (c = '\r' ∧ (d :: more).head? = some '\n') := fun more both =>
          pair ⟨both.1,by simpa using both.2⟩
        rw [List.cons_append,normalizeCons (first front),List.append_assoc,← rest]
        exact normalizeCons (first (front ++ back))

theorem normalizeCut {front back : Text} (cuts : CutsBreak front back) :
    (normalize front ++ normalize back).length = (normalize (front ++ back)).length + 1 := by
  obtain ⟨last,first⟩ := cuts
  obtain ⟨above,rfl⟩ := List.getLast?_eq_some_iff.mp last
  obtain ⟨below,rfl⟩ := List.head?_eq_some_iff.mp first
  have cut : normalize (above ++ ['\r'] ++ '\n' :: below) = normalize above ++ normalize ('\n' :: below) := by
    rw [List.append_assoc,normalizeAppend (fun both => absurd both.2 (by simp)),← normalizePair]
    rfl
  have ended : normalize (above ++ ['\r']) = normalize above ++ ['\n'] :=
    normalizeAppend fun both => absurd both.2 (by simp)
  rw [cut,ended]
  simp only [List.length_append,List.length_singleton]
  omega

/-! ## The whole text -/

theorem normalizeControls (t : Text) : Clean (normalize t) := by
  refine normalizePlain (by decide) (fun _ => rfl) fun c _ visible control => ?_
  rw [visible] at control
  contradiction

theorem normalizeClean {t : Text} (clean : Clean t) : normalize t = t := by
  induction t with
  | nil => rfl
  | cons c rest ih =>
    have head := clean c List.mem_cons_self
    have notReturn : c ≠ '\r' := by
      rintro rfl
      exact absurd (head (by decide)) (by decide)
    have notTab : c ≠ '\t' := by
      rintro rfl
      exact absurd (head (by decide)) (by decide)
    have kept : cleaned c = [c] := by
      rw [cleaned,if_neg notTab]
      by_cases newline : c = '\n'
      · rw [newline]
        rfl
      · have visible : isControl c ≠ true := fun control => newline (head control)
        rw [if_neg (by simp [notReturn,newline]),if_neg visible]
    rw [normalizeCons (fun both => notReturn both.1),kept,
      ih fun d inside => clean d (List.mem_cons_of_mem c inside)]
    rfl

theorem cleanedBreaks (c : Char) :
    (cleaned c).count '\n' = [c].count '\r' + [c].count '\n' := by
  unfold cleaned
  split_ifs with tab line control
  · subst tab
    rfl
  · rcases Bool.or_eq_true_iff.mp line with h | h <;> rw [of_decide_eq_true h] <;> rfl
  · simp only [Bool.or_eq_true,decide_eq_true_eq,not_or] at line
    simp [line.1,line.2]
  · simp only [Bool.or_eq_true,decide_eq_true_eq,not_or] at line
    simp [line.1,line.2]

theorem normalizeCount (t : Text) :
    (normalize t).count '\n' + (t.zip t.tail).count ('\r','\n') = t.count '\r' + t.count '\n' := by
  induction t with
  | nil => rfl
  | cons c rest ih =>
    have counts (d : Char) : (c :: rest).count d = [c].count d + rest.count d := by
      rw [← List.singleton_append,List.count_append]
    by_cases pair : c = '\r' ∧ rest.head? = some '\n'
    · obtain ⟨rfl,first⟩ := pair
      obtain ⟨more,rfl⟩ := List.head?_eq_some_iff.mp first
      have together : (('\r' :: '\n' :: more).zip ('\r' :: '\n' :: more).tail).count ('\r','\n') =
          (('\n' :: more).zip ('\n' :: more).tail).count ('\r','\n') + 1 := List.count_cons_self
      have returns : ['\r'].count '\r' = 1 := rfl
      have newlines : ['\r'].count '\n' = 0 := rfl
      rw [normalizePair,together,counts,counts,returns,newlines]
      omega
    · have alone : ((c :: rest).zip (c :: rest).tail).count ('\r','\n') =
          (rest.zip rest.tail).count ('\r','\n') := by
        cases rest with
        | nil => rfl
        | cons d more =>
          have other : (c,d) ≠ ('\r','\n') := by
            rintro ⟨⟩
            exact pair ⟨rfl,rfl⟩
          exact List.count_cons_of_ne other
      rw [normalizeCons pair,List.count_append,cleanedBreaks,alone,counts,counts]
      omega

/-! ## The paste -/

theorem pasteParts (before after : Text) (r : Recall) (t : Text) :
    paste ⟨parts before after,r⟩ t = some (if normalize t = [] then .ignored else .changed,
      ⟨parts (before ++ normalize t) after,r⟩) := by
  unfold paste
  by_cases none : normalize t = []
  · simp only [none,List.isEmpty_nil,if_true,List.append_nil]
  · have some : (normalize t).isEmpty = false := List.isEmpty_eq_false_iff.mpr none
    simp only [some,none,Bool.false_eq_true,if_false,put,insertParts]
    rfl

def pasteBoth (e : Editor) (front back : Text) : Option Editor := do
  let (_,e) ← e.paste front
  let (_,e) ← e.paste back
  some e

theorem pasteNormalizes (before after : Text) (r : Recall) (t : Text) :
    Clean (normalize t) ∧ (normalize t = t ↔ Clean t) ∧
      (normalize t).count '\n' = lineBreaks t ∧
      normalize (normalize t) = normalize t ∧
      paste ⟨parts before after,r⟩ t = some (if normalize t = [] then .ignored else .changed,
        ⟨parts (before ++ normalize t) after,r⟩) ∧
      ∀ front back, t = front ++ back →
        (normalize t = normalize front ++ normalize back ↔ ¬ CutsBreak front back) ∧
          (¬ CutsBreak front back → pasteBoth ⟨parts before after,r⟩ front back =
            (paste ⟨parts before after,r⟩ t).map (·.2)) := by
  have count := normalizeCount t
  refine ⟨normalizeControls t,⟨fun same => same ▸ normalizeControls t,normalizeClean⟩,by rw [lineBreaks]; omega,
    normalizeClean (normalizeControls t),pasteParts before after r t,?_⟩
  rintro front back rfl
  refine ⟨⟨?_,normalizeAppend⟩,?_⟩
  · intro same cuts
    have longer := normalizeCut cuts
    rw [← same] at longer
    omega
  · intro apart
    simp only [pasteBoth,pasteParts,normalizeAppend apart,List.append_assoc,Option.map_some,bind,Option.bind]

theorem pasteNormalizesPieces :
    ¬ CutsBreak ['\t','a','\r','\n'] ['\x07','\r'] ∧
      normalize ['\t','a','\r','\n','\x07','\r'] = [' ',' ',' ',' ','a','\n','\n'] ∧
      pasteBoth ⟨parts ['x'] ['y'],{}⟩ ['\t','a','\r','\n'] ['\x07','\r'] =
        some ⟨parts ['x',' ',' ',' ',' ','a','\n','\n'] ['y'],{}⟩ := by
  have apart : ¬ CutsBreak ['\t','a','\r','\n'] ['\x07','\r'] := fun both => absurd both.1 (by decide)
  obtain ⟨_,_,_,_,pasted,pieces⟩ := pasteNormalizes ['x'] ['y'] {} ['\t','a','\r','\n','\x07','\r']
  have text : normalize ['\t','a','\r','\n','\x07','\r'] = [' ',' ',' ',' ','a','\n','\n'] := by decide
  refine ⟨apart,text,((pieces ['\t','a','\r','\n'] ['\x07','\r'] rfl).2 apart).trans ?_⟩
  rw [pasted,text]
  rfl

end Editor

end ScriptConsole
