import ScriptConsole.Edit.Reader
import ScriptConsole.Proofs.Edit.Completing
import ScriptConsole.Proofs.Edit.Enter

/-! No key leads outside the text. The point stays between two characters, a property that all the
texts around the editor have holds of its text too, every operation has a result, and a key that is
ignored leaves text and point alone. -/
namespace ScriptConsole.Editor
open Buffer
variable {κ : Type} {P : Char → Prop}

structure Sound (P : Char → Prop) (e : Editor) : Prop where
  placed : e.buffer.Placed
  text : ∀ c ∈ e.buffer.text, P c
  aside : ∀ t, e.recalled.aside = some t → ∀ c ∈ t, P c

structure Good (P : Char → Prop) (e : Editor) (o : Outcome) (e' : Editor) : Prop where
  sound : e'.Sound P
  still : o = .ignored → e'.buffer = e.buffer
  listed : ∀ l, o = .candidates l → ∀ t ∈ l, ∀ c ∈ t, P c
  handed : ∀ t, o = .submit t → t = e.buffer.text

structure Supplies (P : Char → Prop) (s : Surroundings κ) : Prop where
  entries : ∀ t ∈ s.entries, ∀ c ∈ t, P c
  candidates : ∀ k context word, ∀ t ∈ (s.completer.complete k context word).1, ∀ c ∈ t, P c

theorem goodIgnored {e : Editor} (sound : e.Sound P) : Good P e .ignored e :=
  ⟨sound,fun _ => rfl,nofun,nofun⟩

theorem goodChanged {e e' : Editor} (sound : e'.Sound P) : Good P e .changed e' :=
  ⟨sound,nofun,nofun,nofun⟩

theorem goodSubmit (e : Editor) : Good P e (.submit e.buffer.text) {} :=
  ⟨⟨emptyPlaced,nofun,nofun⟩,nofun,nofun,fun _ h => (Outcome.submit.inj h).symm⟩

theorem goodCandidates {e : Editor} (sound : e.Sound P) {l : List Text} (listed : ∀ t ∈ l, ∀ c ∈ t, P c) :
    Good P e (.candidates l) e :=
  ⟨sound,nofun,fun _ h => (Outcome.candidates.inj h) ▸ listed,nofun⟩

theorem soundParts {before after : Text} {r : Recall} (front : ∀ c ∈ before, P c)
    (back : ∀ c ∈ after, P c) (aside : ∀ t, r.aside = some t → ∀ c ∈ t, P c) :
    Sound P ⟨parts before after,r⟩ :=
  ⟨⟨before,after,rfl⟩,by
    rw [partsText]
    intro c inside
    rcases List.mem_append.mp inside with h | h
    · exact front c h
    · exact back c h,aside⟩

theorem soundSplit {e : Editor} (sound : e.Sound P) :
    ∃ before after, e = ⟨parts before after,e.recalled⟩ ∧ (∀ c ∈ before, P c) ∧ ∀ c ∈ after, P c := by
  obtain ⟨before,after,same⟩ := sound.placed
  have text := sound.text
  rw [same,partsText] at text
  refine ⟨before,after,?_,fun c h => text c (List.mem_append_left _ h),
    fun c h => text c (List.mem_append_right _ h)⟩
  cases e
  exact congrArg (Editor.mk · _) same

theorem moveToGood {e : Editor} (sound : e.Sound P) (point : Nat) :
    Good P e (e.moveTo point).1 (e.moveTo point).2 := by
  unfold moveTo
  split
  · exact goodIgnored sound
  · exact goodChanged ⟨setPointPlaced e.buffer point,sound.text,sound.aside⟩

theorem lineHomeGood {e : Editor} (sound : e.Sound P) :
    ∃ o e', e.lineHome = some (o,e') ∧ Good P e o e' := by
  obtain ⟨before,after,same,_,_⟩ := soundSplit sound
  obtain ⟨pre,_,_,start⟩ := Text.lineStartAt before after
  have found : e.lineHome = some (e.moveTo (Text.size pre)) := by
    rw [lineHome,same,partsText,partsPoint,start]; rfl
  exact ⟨_,_,found,moveToGood sound _⟩

theorem lineEndGood {e : Editor} (sound : e.Sound P) :
    ∃ o e', e.lineEnd = some (o,e') ∧ Good P e o e' := by
  obtain ⟨before,after,same,_,_⟩ := soundSplit sound
  have found : e.lineEnd = some (e.moveTo (Text.size before + Text.size (Text.restOfLine after))) := by
    rw [lineEnd,same,partsText,partsPoint,Text.lineEndAt]; rfl
  exact ⟨_,_,found,moveToGood sound _⟩

theorem moveMaybeGood {e : Editor} (sound : e.Sound P) (point : Option Nat) :
    Good P e (e.moveTo? point).1 (e.moveTo? point).2 := by
  cases point with
  | none => exact goodIgnored sound
  | some point => exact moveToGood sound point

theorem previousAt (before after : Text) :
    (before = [] ∧ (parts before after).previous? = some none) ∨
      ∃ init c, before = init ++ [c] ∧ (parts before after).previous? = some (some (Text.size init)) := by
  rcases List.eq_nil_or_concat before with rfl | ⟨init,c,rfl⟩
  · exact .inl ⟨rfl,previousStart after⟩
  · rw [List.concat_eq_append]
    exact .inr ⟨init,c,rfl,previousParts init after c⟩

theorem nextAt (before after : Text) :
    (after = [] ∧ (parts before after).next? = some none) ∨
      ∃ c rest, after = c :: rest ∧
        (parts before after).next? = some (some (Text.size (before ++ [c]))) := by
  cases after with
  | nil => exact .inl ⟨rfl,nextEnd before⟩
  | cons c rest => exact .inr ⟨c,rest,rfl,nextParts before rest c⟩

theorem charLeftGood {e : Editor} (sound : e.Sound P) :
    ∃ o e', e.charLeft = some (o,e') ∧ Good P e o e' := by
  obtain ⟨before,after,same,_,_⟩ := soundSplit sound
  have found : ∃ point, e.buffer.previous? = some point := by
    rw [same]
    rcases previousAt before after with ⟨_,h⟩ | ⟨_,_,_,h⟩ <;> exact ⟨_,h⟩
  obtain ⟨point,found⟩ := found
  exact ⟨_,_,by rw [charLeft,found]; rfl,moveMaybeGood sound point⟩

theorem charRightGood {e : Editor} (sound : e.Sound P) :
    ∃ o e', e.charRight = some (o,e') ∧ Good P e o e' := by
  obtain ⟨before,after,same,_,_⟩ := soundSplit sound
  have found : ∃ point, e.buffer.next? = some point := by
    rw [same]
    rcases nextAt before after with ⟨_,h⟩ | ⟨_,_,_,h⟩ <;> exact ⟨_,h⟩
  obtain ⟨point,found⟩ := found
  exact ⟨_,_,by rw [charRight,found]; rfl,moveMaybeGood sound point⟩

theorem cutBefore (mid : Text) {pre after : Text} {r : Recall} (front : ∀ c ∈ pre, P c)
    (back : ∀ c ∈ after, P c) (aside : ∀ t, r.aside = some t → ∀ c ∈ t, P c) :
    ∃ o e', cut ⟨parts (pre ++ mid) after,r⟩ (Text.size pre) (Text.size (pre ++ mid)) = some (o,e') ∧
      Good P ⟨parts (pre ++ mid) after,r⟩ o e' :=
  ⟨_,_,by rw [cut,deleteBefore]; rfl,goodChanged (soundParts front back aside)⟩

theorem cutAfter (mid : Text) {before post : Text} {r : Recall} (front : ∀ c ∈ before, P c)
    (back : ∀ c ∈ post, P c) (aside : ∀ t, r.aside = some t → ∀ c ∈ t, P c) :
    ∃ o e', cut ⟨parts before (mid ++ post),r⟩ (Text.size before) (Text.size (before ++ mid)) =
        some (o,e') ∧ Good P ⟨parts before (mid ++ post),r⟩ o e' :=
  ⟨_,_,by rw [cut,deleteAfter]; rfl,goodChanged (soundParts front back aside)⟩

theorem trailingSpaces {before : Text} {count : Nat}
    (spacesOnly : (Text.openLine before).all (· == ' ') = true)
    (fits : count ≤ (Text.openLine before).length) :
    ∃ pre mid, before = pre ++ mid ∧ Text.size before - count = Text.size pre := by
  obtain ⟨pre,whole,_⟩ := Text.openLineParts before
  let kept := (Text.openLine before).length - count
  have line := (List.take_append_drop kept (Text.openLine before)).symm
  have spaces : ((Text.openLine before).drop kept).all (· == ' ') = true := by
    rw [List.all_eq_true] at spacesOnly ⊢
    exact fun c h => spacesOnly c (List.mem_of_mem_drop h)
  have length := Text.spacesOfAll spaces
  rw [List.length_drop] at length
  refine ⟨pre ++ (Text.openLine before).take kept,(Text.openLine before).drop kept,?_,?_⟩
  · rw [List.append_assoc,← line]
    exact whole
  · have sizes := congrArg Text.size whole
    have sizes' := congrArg Text.size line
    rw [Text.sizeAppend] at sizes sizes' ⊢
    omega

theorem backspaceGood {e : Editor} (sound : e.Sound P) :
    ∃ o e', e.backspace = some (o,e') ∧ Good P e o e' := by
  obtain ⟨before,after,same,front,back⟩ := soundSplit sound
  have leading := Text.leadingSpacesAt before after
  rcases previousAt before after with ⟨_,start⟩ | ⟨init,c,whole,previous⟩
  · exact ⟨.ignored,e,by rw [backspace,same]; simp [start],goodIgnored sound⟩
  · have one : ∃ o e', cut ⟨parts before after,e.recalled⟩ (Text.size init) (Text.size before) =
        some (o,e') ∧ Good P ⟨parts before after,e.recalled⟩ o e' := by
      subst whole
      exact cutBefore _ (fun d h => front d (List.mem_append_left _ h)) back sound.aside
    rw [same]
    simp only [backspace,partsText,partsPoint,previous,leading,bind,Option.bind]
    by_cases spacesOnly : (Text.openLine before).all (· == ' ') = true
    · rw [if_pos spacesOnly]
      cases length : (Text.openLine before).length with
      | zero => exact one
      | succ run =>
        simp only []
        have fits : (if (run + 1) % indentWidth = 0 then indentWidth else (run + 1) % indentWidth) ≤
            (Text.openLine before).length := by
          rw [length]
          unfold indentWidth
          split <;> omega
        obtain ⟨pre,mid,cutAt,offset⟩ := trailingSpaces spacesOnly fits
        rw [offset]
        subst cutAt
        exact cutBefore _ (fun d h => front d (List.mem_append_left _ h)) back sound.aside
    · rw [if_neg spacesOnly]
      exact one

theorem deleteForwardGood {e : Editor} (sound : e.Sound P) :
    ∃ o e', e.deleteForward = some (o,e') ∧ Good P e o e' := by
  obtain ⟨before,after,same,front,back⟩ := soundSplit sound
  rcases nextAt before after with ⟨_,stop⟩ | ⟨c,rest,whole,next⟩
  · exact ⟨.ignored,e,by rw [deleteForward,same]; simp [stop],goodIgnored sound⟩
  · rw [same]
    simp only [deleteForward,partsPoint,next,bind,Option.bind]
    subst whole
    exact cutAfter [c] front (fun d h => back d (List.mem_cons_of_mem _ h)) sound.aside

theorem killToEndGood {e : Editor} (sound : e.Sound P) :
    ∃ o e', e.killToEnd = some (o,e') ∧ Good P e o e' := by
  obtain ⟨before,after,same,front,back⟩ := soundSplit sound
  obtain ⟨post,whole⟩ := Text.restOfLineParts after
  have stop := Text.lineEndAt before after
  rw [← Text.sizeAppend] at stop
  rw [same]
  simp only [killToEnd,partsText,partsPoint,stop,bind,Option.bind]
  by_cases none : Text.size (before ++ Text.restOfLine after) = Text.size before
  · simp only [none,if_true]
    exact ⟨_,_,rfl,goodIgnored (same ▸ sound)⟩
  · simp only [none,if_false]
    have cutting := cutAfter (Text.restOfLine after) front
      (fun d h => back d (by rw [whole]; exact List.mem_append_right _ h)) sound.aside
    rwa [← whole] at cutting

theorem killToStartGood {e : Editor} (sound : e.Sound P) :
    ∃ o e', e.killToStart = some (o,e') ∧ Good P e o e' := by
  obtain ⟨before,after,same,front,back⟩ := soundSplit sound
  obtain ⟨pre,whole,_,start⟩ := Text.lineStartAt before after
  rw [same]
  simp only [killToStart,partsText,partsPoint,start,bind,Option.bind]
  by_cases none : Text.size pre = Text.size before
  · simp only [none,if_true]
    exact ⟨_,_,rfl,goodIgnored (same ▸ sound)⟩
  · simp only [none,if_false]
    have cutting := cutBefore (Text.openLine before)
      (fun d h => front d (by rw [whole]; exact List.mem_append_left _ h)) back sound.aside
    rwa [← whole] at cutting

theorem putGood {e : Editor} {t : Text} (sound : e.Sound P) (plain : ∀ c ∈ t, P c) :
    ∃ o e', e.put t = some (o,e') ∧ Good P e o e' := by
  obtain ⟨before,after,same,front,back⟩ := soundSplit sound
  rw [same]
  refine ⟨_,_,by rw [put,insertParts]; rfl,goodChanged (soundParts ?_ back sound.aside)⟩
  intro c inside
  rcases List.mem_append.mp inside with h | h
  · exact front c h
  · exact plain c h

theorem spacesPlain (space : P ' ') (n : Nat) : ∀ c ∈ spaces n, P c := by
  intro c inside
  obtain rfl := List.eq_of_mem_replicate inside
  exact space

theorem breakLineSound {e : Editor} (space : P ' ') (newline : P '\n') (sound : e.Sound P) :
    ∃ e', e.breakLine = some e' ∧ e'.Sound P := by
  obtain ⟨before,after,same,front,back⟩ := soundSplit sound
  rw [same]
  refine ⟨_,breakLineParts before after e.recalled,soundParts ?_ back sound.aside⟩
  intro c inside
  unfold Text.broken at inside
  rcases List.mem_append.mp inside with h | h
  · split at h
    · exact front c (List.mem_of_mem_take h)
    · exact front c h
  · rcases List.mem_cons.mp h with rfl | h
    · exact newline
    · exact spacesPlain space _ c h

theorem enterGood {e : Editor} (space : P ' ') (newline : P '\n') (sound : e.Sound P)
    (s : Surroundings κ) : ∃ o e', e.enter s = some (o,e') ∧ Good P e o e' := by
  obtain ⟨e',broken,kept⟩ := breakLineSound space newline sound
  have submitted : ∃ o e', some e.submit = some (o,e') ∧ Good P e o e' := ⟨_,_,rfl,goodSubmit _⟩
  have continued : ∃ o e', e.breakLine.map (Outcome.changed,·) = some (o,e') ∧ Good P e o e' :=
    ⟨_,_,by rw [broken]; rfl,goodChanged kept⟩
  unfold enter
  simp only []
  split
  · split
    · exact continued
    · exact submitted
  · split
    · exact submitted
    · split
      · exact submitted
      · split
        · exact continued
        · exact submitted

theorem previousPlain {r : Recall} {entries : List Text} {current : Text}
    (plain : ∀ t ∈ entries, ∀ c ∈ t, P c) (text : ∀ c ∈ current, P c)
    (aside : ∀ t, r.aside = some t → ∀ c ∈ t, P c) :
    (∀ t, (r.previous entries current).1 = some t → ∀ c ∈ t, P c) ∧
      ∀ t, (r.previous entries current).2.aside = some t → ∀ c ∈ t, P c := by
  unfold Recall.previous
  split
  · exact ⟨nofun,aside⟩
  · refine ⟨fun t h => plain t (List.mem_of_getElem? h),?_⟩
    intro t h
    simp only at h
    split at h
    · cases h
      exact text
    · exact aside t h

theorem nextPlain {r : Recall} {entries : List Text} (plain : ∀ t ∈ entries, ∀ c ∈ t, P c)
    (aside : ∀ t, r.aside = some t → ∀ c ∈ t, P c) :
    (∀ t, (r.next entries).1 = some t → ∀ c ∈ t, P c) ∧
      ∀ t, (r.next entries).2.aside = some t → ∀ c ∈ t, P c := by
  unfold Recall.next
  split
  · exact ⟨nofun,aside⟩
  · split
    · refine ⟨?_,nofun⟩
      intro t h
      cases h
      cases kept : r.aside with
      | none => exact nofun
      | some t => exact aside t kept
    · exact ⟨fun t h => plain t (List.mem_of_getElem? h),aside⟩

theorem replacedSound {entry : Text} {point : Nat} {r : Recall} (text : ∀ c ∈ entry, P c)
    (aside : ∀ t, r.aside = some t → ∀ c ∈ t, P c) : Sound P ⟨.replace entry point,r⟩ :=
  ⟨replacePlaced entry point,text,aside⟩

theorem lineUpGood {e : Editor} {entries : List Text} (plain : ∀ t ∈ entries, ∀ c ∈ t, P c)
    (sound : e.Sound P) : ∃ o e', e.lineUp entries = some (o,e') ∧ Good P e o e' := by
  obtain ⟨before,after,same,front,back⟩ := soundSplit sound
  obtain ⟨pre,whole,shape,start⟩ := Text.lineStartAt before after
  have column := Text.columnAt before after
  have text : e.buffer.text = before ++ after := by rw [same]; rfl
  have point : e.buffer.point = Text.size before := by rw [same]; rfl
  simp only [lineUp,text,point,start,column,bind,Option.bind]
  by_cases first : Text.size pre = 0
  · simp only [first,if_true]
    rw [← text]
    obtain ⟨shown,kept⟩ := previousPlain plain sound.text sound.aside
    cases walk : e.recalled.previous entries e.buffer.text with
    | mk found recalled =>
      rw [walk] at shown kept
      cases found with
      | none => exact ⟨_,_,rfl,⟨⟨sound.placed,sound.text,kept⟩,fun _ => rfl,nofun,nofun⟩⟩
      | some entry =>
        obtain ⟨span,offset,line,at_⟩ :=
          Text.offsetAtColumnExists entry [] (Text.cells (Text.openLine before))
        rw [List.append_nil] at line at_
        simp only [line,at_]
        exact ⟨_,_,rfl,goodChanged (replacedSound (shown entry rfl) kept)⟩
  · simp only [first,if_false]
    rcases shape with rfl | ⟨lead,rfl⟩
    · exact absurd rfl first
    · have above : Text.size (lead ++ ['\n']) - 1 = Text.size lead := by
        rw [Text.sizeAppend]; rfl
      obtain ⟨span,offset,line,at_⟩ := Text.offsetAtColumnExists lead
        ('\n' :: Text.openLine before ++ after) (Text.cells (Text.openLine before))
      have parted : lead ++ ('\n' :: Text.openLine before ++ after) = before ++ after := by
        conv => rhs; rw [whole]
        simp
      rw [parted] at line at_
      simp only [above,line,at_]
      exact ⟨_,_,rfl,goodChanged (moveToGood sound offset).sound⟩

theorem lineDownGood {e : Editor} {entries : List Text} (plain : ∀ t ∈ entries, ∀ c ∈ t, P c)
    (sound : e.Sound P) : ∃ o e', e.lineDown entries = some (o,e') ∧ Good P e o e' := by
  obtain ⟨before,after,same,front,back⟩ := soundSplit sound
  have stop := Text.lineEndAt before after
  have column := Text.columnAt before after
  have text : e.buffer.text = before ++ after := by rw [same]; rfl
  have point : e.buffer.point = Text.size before := by rw [same]; rfl
  simp only [lineDown,text,point,stop,column,bind,Option.bind]
  by_cases last : Text.size before + Text.size (Text.restOfLine after) = Text.size (before ++ after)
  · simp only [last,if_true]
    obtain ⟨shown,kept⟩ := nextPlain plain sound.aside
    cases walk : e.recalled.next entries with
    | mk found recalled =>
      rw [walk] at shown kept
      cases found with
      | none => exact ⟨_,_,rfl,⟨⟨sound.placed,sound.text,kept⟩,fun _ => rfl,nofun,nofun⟩⟩
      | some entry =>
        obtain ⟨span,offset,line,at_⟩ :=
          Text.offsetAtColumnExists [] entry (Text.cells (Text.openLine before))
        rw [List.nil_append] at line at_
        simp only [Text.size] at line
        simp only [line,at_]
        exact ⟨_,_,rfl,goodChanged (replacedSound (shown entry rfl) kept)⟩
  · simp only [last,if_false]
    obtain ⟨post,parted⟩ := Text.lineBelow after (by
      intro all
      rw [Text.sizeAppend,all] at last
      exact last rfl)
    obtain ⟨span,offset,line,at_⟩ := Text.offsetAtColumnExists
      (before ++ Text.restOfLine after ++ ['\n']) post (Text.cells (Text.openLine before))
    have below : Text.size before + Text.size (Text.restOfLine after) + 1 =
        Text.size (before ++ Text.restOfLine after ++ ['\n']) := by
      rw [Text.sizeAppend,Text.sizeAppend]; rfl
    have whole : before ++ Text.restOfLine after ++ ['\n'] ++ post = before ++ after := by
      conv => rhs; rw [parted]
      simp
    rw [whole,← below] at line
    rw [whole] at at_
    simp only [line,at_]
    exact ⟨_,_,rfl,goodChanged (moveToGood sound offset).sound⟩

theorem resolvePlain (word : Text) {l : List Text} (plain : ∀ t ∈ l, ∀ c ∈ t, P c) :
    (∀ rest, Completion.resolve word l = .insert rest → ∀ c ∈ rest, P c) ∧
      ∀ listed, Completion.resolve word l = .list listed → ∀ t ∈ listed, ∀ c ∈ t, P c := by
  have kept : ∀ t ∈ Completion.matching word l, ∀ c ∈ t, P c := fun t h =>
    plain t (Completion.matchingMembers.mp h).1
  unfold Completion.resolve
  split
  · exact ⟨nofun,nofun⟩
  · rename_i only found
    refine ⟨?_,nofun⟩
    intro rest h
    cases h
    exact fun c inside => kept only (by rw [found]; exact List.mem_cons_self) c (List.mem_of_mem_drop inside)
  · simp only []
    split
    · refine ⟨?_,nofun⟩
      intro rest h
      cases h
      intro c inside
      obtain ⟨t,there,found⟩ := Completion.commonMember (List.mem_of_mem_drop inside)
      exact kept t there c found
    · refine ⟨nofun,?_⟩
      intro listed h
      cases h
      exact kept

theorem tabGood {e : Editor} (space : P ' ') (sound : e.Sound P) {s : Surroundings κ}
    (supplies : Supplies P s) (k : κ) :
    ∃ o e' k', e.tab s k = some (o,e',k') ∧ Good P e o e' := by
  obtain ⟨before,after,same,front,back⟩ := soundSplit sound
  by_cases spacesOnly : (Text.openLine before).all (· == ' ') = true
  · have leading : Text.leadingSpaces? e.buffer.text e.buffer.point = some (some (Text.openLine before).length) := by
      rw [same,partsText,partsPoint,Text.leadingSpacesAt,if_pos spacesOnly]
    obtain ⟨o,e',put,good⟩ := putGood sound (spacesPlain space
      (indentWidth - (Text.openLine before).length % indentWidth))
    simp only [tab,leading,bind,Option.bind,put]
    exact ⟨o,e',k,rfl,good⟩
  · have asks := tabAsks (congrArg Editor.buffer same) (Bool.not_eq_true _ ▸ spacesOnly) s k
    have plain := supplies.candidates k (wordContext before) (Completion.lastWord before)
    obtain ⟨inserted,listed⟩ := resolvePlain (Completion.lastWord before) plain
    cases answer : Completion.resolve (Completion.lastWord before)
        (s.completer.complete k (wordContext before) (Completion.lastWord before)).1 with
    | nothing => exact ⟨_,_,_,by simp only [asks,answer]; rfl,goodIgnored sound⟩
    | insert rest =>
      refine ⟨_,_,_,by simp only [asks,answer]; rfl,goodChanged (soundParts ?_ back sound.aside)⟩
      intro c inside
      rcases List.mem_append.mp inside with old | new
      · exact front c old
      · exact inserted rest answer c new
    | list l => exact ⟨_,_,_,by simp only [asks,answer]; rfl,goodCandidates sound (listed l answer)⟩

theorem pressed {e : Editor} {answer : Option (Outcome × Editor)} (k : κ)
    (good : ∃ o e', answer = some (o,e') ∧ Good P e o e') :
    ∃ o e' k', (answer.map fun (o,e) => (o,e,k)) = some (o,e',k') ∧ Good P e o e' := by
  obtain ⟨o,e',found,kept⟩ := good
  exact ⟨o,e',k,by rw [found]; rfl,kept⟩

theorem controlGood {e : Editor} (space : P ' ') (newline : P '\n') (sound : e.Sound P)
    {s : Surroundings κ} (supplies : Supplies P s) (k : κ) (c : Char) :
    ∃ o e' k', e.control s k c = some (o,e',k') ∧ Good P e o e' := by
  unfold control
  simp only []
  split
  · exact ⟨_,_,_,rfl,sound,nofun,nofun,nofun⟩
  · split
    · exact ⟨_,_,_,rfl,sound,nofun,nofun,nofun⟩
    · exact pressed k (deleteForwardGood sound)
  · exact pressed k (lineHomeGood sound)
  · exact pressed k (lineEndGood sound)
  · exact pressed k (lineUpGood supplies.entries sound)
  · exact pressed k (lineDownGood supplies.entries sound)
  · exact pressed k (charLeftGood sound)
  · exact pressed k (charRightGood sound)
  · exact pressed k (killToEndGood sound)
  · exact pressed k (killToStartGood sound)
  · exact pressed k (enterGood space newline sound s)
  · exact pressed k (enterGood space newline sound s)
  · exact tabGood space sound supplies k
  · exact pressed k (backspaceGood sound)
  · exact ⟨_,_,_,rfl,goodIgnored sound⟩

def Key.Types (key : Key) (c : Char) : Prop :=
  key.code = .char c ∧ key.control = false ∧ key.alt = false

theorem pressGood {e : Editor} (space : P ' ') (newline : P '\n') (sound : e.Sound P)
    {s : Surroundings κ} (supplies : Supplies P s) (k : κ) {key : Key}
    (typed : ∀ c, Key.Types key c → P c) :
    ∃ o e' k', e.press s k key = some (o,e',k') ∧ Good P e o e' := by
  unfold press
  simp only []
  split
  · exact pressed k (enterGood space newline sound s)
  · exact pressed k (lineUpGood supplies.entries sound)
  · exact pressed k (lineDownGood supplies.entries sound)
  · exact pressed k (lineHomeGood sound)
  · exact pressed k (lineEndGood sound)
  · exact pressed k (charLeftGood sound)
  · exact pressed k (charRightGood sound)
  · exact pressed k (backspaceGood sound)
  · exact pressed k (deleteForwardGood sound)
  · exact tabGood space sound supplies k
  · rename_i c code
    split
    · exact controlGood space newline sound supplies k _
    · rename_i free
      split
      · exact ⟨_,_,_,rfl,goodIgnored sound⟩
      · rename_i free'
        have kept : P c := typed c ⟨code,Bool.eq_false_iff.mpr free,Bool.eq_false_iff.mpr free'⟩
        exact pressed k (putGood sound fun d inside => by rw [List.mem_singleton.mp inside]; exact kept)
  · exact ⟨_,_,_,rfl,goodIgnored sound⟩

theorem normalizePlain (space : P ' ') (newline : P '\n') {t : Text}
    (pasted : ∀ c ∈ t, Text.isControl c = false → P c) : ∀ c ∈ normalize t, P c := by
  induction t using normalize.induct with
  | case1 rest ih =>
    intro c inside
    rw [normalize] at inside
    rcases List.mem_cons.mp inside with rfl | h
    · exact newline
    · exact ih (fun d there => pasted d (by simp [there])) c h
  | case2 rest other ih =>
    intro c inside
    rw [normalize,if_pos rfl] at inside
    · rcases List.mem_append.mp inside with h | h
      · exact spacesPlain space _ c h
      · exact ih (fun d there => pasted d (List.mem_cons_of_mem _ there)) c h
    · exact other
  | case3 d rest other tab line ih =>
    intro c inside
    rw [normalize,if_neg tab,if_pos line] at inside
    · rcases List.mem_cons.mp inside with rfl | h
      · exact newline
      · exact ih (fun d there => pasted d (List.mem_cons_of_mem _ there)) c h
    · exact other
  | case4 d rest other tab line hidden ih =>
    intro c inside
    rw [normalize,if_neg tab,if_neg line,if_pos hidden] at inside
    · exact ih (fun d there => pasted d (List.mem_cons_of_mem _ there)) c inside
    · exact other
  | case5 d rest other tab line visible ih =>
    intro c inside
    rw [normalize,if_neg tab,if_neg line,if_neg visible] at inside
    · rcases List.mem_cons.mp inside with rfl | h
      · exact pasted c List.mem_cons_self (Bool.eq_false_iff.mpr visible)
      · exact ih (fun d there => pasted d (List.mem_cons_of_mem _ there)) c h
    · exact other
  | case6 =>
    intro c inside
    cases inside

theorem normalizeNewlines (n : Nat) : normalize (List.replicate n '\n') = List.replicate n '\n' := by
  induction n with
  | zero => rfl
  | succ n ih =>
    rw [List.replicate_succ,normalize,if_neg (by decide),if_pos (by decide),ih]
    exact fun _ h => absurd h (by decide)

theorem pasteGood {e : Editor} (space : P ' ') (newline : P '\n') (sound : e.Sound P) {t : Text}
    (pasted : ∀ c ∈ t, Text.isControl c = false → P c) :
    ∃ o e', e.paste t = some (o,e') ∧ Good P e o e' := by
  unfold paste
  simp only []
  split
  · exact ⟨_,_,rfl,goodIgnored sound⟩
  · exact putGood sound (normalizePlain space newline pasted)

def Brings : Event → Char → Prop
  | .key key phase,c => phase ≠ .release ∧ Key.Types key c
  | .paste t,c => c ∈ t ∧ Text.isControl c = false
  | .resize _ _,_ | .focus _,_ => False

theorem handleGood {r : LineReader} (space : P ' ') (newline : P '\n') (sound : r.editor.Sound P)
    {s : Surroundings (κ × Signals)} (supplies : Supplies P s) (state : κ × Signals) {event : Event}
    (brought : ∀ c, Brings event c → P c) :
    ∃ o e' state', r.handle s state event = some (o,e',state') ∧ Good P r.editor o e' := by
  unfold LineReader.handle
  split
  · exact ⟨_,_,_,rfl,goodIgnored sound⟩
  · rename_i phase pressed
    exact pressGood space newline sound supplies state fun c types => brought c ⟨pressed,types⟩
  · exact pressed state (pasteGood space newline sound fun c inside visible => brought c ⟨inside,visible⟩)
  · exact ⟨_,_,_,rfl,goodChanged sound⟩
  · exact ⟨_,_,_,rfl,goodIgnored sound⟩

end ScriptConsole.Editor
