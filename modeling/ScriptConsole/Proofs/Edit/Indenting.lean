import Mathlib.Algebra.Order.Floor.Div
import ScriptConsole.Proofs.Edit.Typing

/-! Indentation. Where only spaces precede the point on its line, Tab and Backspace go from one indent
stop to the next. A broken line takes its indentation to the next one; as many Backspaces as there are
stops in it, and one more for the newline, take both back. -/
namespace ScriptConsole

namespace Text
open Editor (spaces)

theorem sizeSpaces (n : Nat) : size (spaces n) = n := by
  have only : (spaces n).all (· == ' ') = true := by simp [spaces]
  rw [spacesOfAll only,spaces,List.length_replicate]

theorem spacesAdd (n m : Nat) : spaces n ++ spaces m = spaces (n + m) := List.replicate_append_replicate

/- What stands before a point: the lines above its line, the spaces that open the line, and what comes
between them and the point. -/
structure Indented (before above : Text) (k : Nat) (rest : Text) : Prop where
  whole : before = above ++ spaces k ++ rest
  top : above = [] ∨ ∃ front, above = front ++ ['\n']
  one : '\n' ∉ rest
  starts : rest.head? ≠ some ' '

theorem indentedExists (before : Text) : ∃ above k rest, Indented before above k rest := by
  obtain ⟨above,whole,top⟩ := openLineParts before
  have opening : (openLine before).takeWhile (· == ' ') =
      spaces ((openLine before).takeWhile (· == ' ')).length := by
    refine List.eq_replicate_iff.mpr ⟨rfl,fun c inside => ?_⟩
    exact beq_iff_eq.mp (List.all_eq_true.mp List.all_takeWhile c inside)
  refine ⟨above,((openLine before).takeWhile (· == ' ')).length,(openLine before).dropWhile (· == ' '),
    ?_,top,?_,?_⟩
  · rw [← opening,List.append_assoc,List.takeWhile_append_dropWhile]
    exact whole
  · exact fun inside => openLineOne before (List.dropWhile_subset _ inside)
  · intro space
    have other := List.head?_dropWhile_not (· == ' ') (openLine before)
    rw [space] at other
    simp at other

section
variable {before above rest : Text} {k : Nat} (indented : Indented before above k rest)
include indented

theorem indentedLine : openLine before = spaces k ++ rest := by
  have one : '\n' ∉ spaces k ++ rest := by
    intro inside
    rcases List.mem_append.mp inside with space | later
    · exact absurd (List.eq_of_mem_replicate space) (by decide)
    · exact indented.one later
  have row : Row before above (spaces k ++ rest ++ []) [] :=
    ⟨by rw [indented.whole]; simp,by rwa [List.append_nil],indented.top,.inl rfl⟩
  have line := rowOpenLine row
  rwa [← List.append_assoc,← indented.whole] at line

theorem indentedWidth : ((openLine before).takeWhile (· == ' ')).length = k := by
  have front : ∀ c ∈ spaces k, (c == ' ') = true := fun c inside => beq_iff_eq.mpr (List.eq_of_mem_replicate inside)
  have stops : rest.takeWhile (· == ' ') = [] := by
    cases content : rest with
    | nil => rfl
    | cons c more =>
      have other : c ≠ ' ' := by
        rintro rfl
        exact indented.starts (by rw [content]; rfl)
      rw [List.takeWhile_cons_of_neg (by simpa using other)]
  rw [indentedLine indented,List.takeWhile_append_of_pos front,stops,List.append_nil,spaces,List.length_replicate]

theorem indentedSpacesOnly : (openLine before).all (· == ' ') = true ↔ rest = [] := by
  rw [indentedLine indented,List.all_append,Bool.and_eq_true]
  constructor
  · intro ⟨_,only⟩
    cases content : rest with
    | nil => rfl
    | cons c more =>
      rw [content,List.all_cons,Bool.and_eq_true,beq_iff_eq] at only
      exact absurd (by rw [content,only.1]; rfl) indented.starts
  · rintro rfl
    exact ⟨by simp [spaces],rfl⟩

theorem indentedBroken : broken before = (if rest = [] then above else before) ++ '\n' :: spaces k := by
  unfold broken
  simp only [indentedWidth indented,indentedSpacesOnly indented]
  split
  · rename_i none
    have line := indentedLine indented
    have whole := indented.whole
    rw [none,List.append_nil] at line whole
    rw [line,whole,List.length_append,Nat.add_sub_cancel,List.take_left]
  · rfl

end

end Text

namespace Editor
open Buffer (parts partsText partsPoint insertParts previousParts deleteBefore)
open Text (Indented sizeSpaces spacesAdd)
variable {κ : Type}

/-! ## Indent stops -/

def stopAbove (n : Nat) : Nat := n + (indentWidth - n % indentWidth)

def stepBack (n : Nat) : Nat := if n % indentWidth = 0 then indentWidth else n % indentWidth

def stopBelow (n : Nat) : Nat := n - stepBack n

theorem stepBackFits {n : Nat} (more : 0 < n) : stepBack n ≤ n := by
  unfold stepBack indentWidth
  split <;> omega

theorem stopAboveLeast (n : Nat) : IsLeast {m | indentWidth ∣ m ∧ n < m} (stopAbove n) := by
  unfold stopAbove indentWidth
  constructor
  · exact ⟨by omega,by omega⟩
  · rintro m ⟨stop,above⟩
    omega

theorem stopBelowGreatest {n : Nat} (more : 0 < n) :
    IsGreatest {m | indentWidth ∣ m ∧ m < n} (stopBelow n) := by
  unfold stopBelow stepBack indentWidth
  constructor
  · exact ⟨by split <;> omega,by split <;> omega⟩
  · rintro m ⟨stop,below⟩
    split <;> omega

theorem stopsLeft {n : Nat} (more : 0 < n) : n ⌈/⌉ indentWidth = stopBelow n ⌈/⌉ indentWidth + 1 := by
  rw [Nat.ceilDiv_eq_add_pred_div,Nat.ceilDiv_eq_add_pred_div,stopBelow,stepBack,indentWidth]
  by_cases stop : n % 4 = 0
  · rw [if_pos stop]
    omega
  · rw [if_neg stop]
    omega

/-! ## Tab and Backspace -/

section
variable {before above : Text} {n : Nat} (indented : Indented before above n []) (after : Text) (r : Recall)
include indented

theorem indentedLeading : Text.leadingSpaces? (before ++ after) (Text.size before) = some (some n) := by
  have line := Text.indentedLine indented
  rw [Text.leadingSpacesAt,if_pos ((Text.indentedSpacesOnly indented).mpr rfl),line]
  simp [spaces]

theorem tabIndents (s : Surroundings κ) (k : κ) : tab ⟨parts before after,r⟩ s k =
    some (.changed,⟨parts (above ++ spaces (stopAbove n)) after,r⟩,k) := by
  have whole : before ++ spaces (indentWidth - n % indentWidth) = above ++ spaces (stopAbove n) := by
    rw [indented.whole,List.append_nil,List.append_assoc,spacesAdd,stopAbove]
  simp only [tab,partsText,partsPoint,indentedLeading indented after,put,insertParts,whole,bind,Option.bind]
  rfl

theorem backspaceIndents (more : 0 < n) : backspace ⟨parts before after,r⟩ =
    some (.changed,⟨parts (above ++ spaces (stopBelow n)) after,r⟩) := by
  have whole : before = above ++ spaces n := by rw [indented.whole,List.append_nil]
  have leading := indentedLeading indented after
  have parted : before = above ++ spaces (stopBelow n) ++ spaces (stepBack n) := by
    rw [whole,List.append_assoc,spacesAdd,stopBelow,Nat.sub_add_cancel (stepBackFits more)]
  have offset : Text.size before - stepBack n = Text.size (above ++ spaces (stopBelow n)) := by
    rw [parted,Text.sizeAppend,sizeSpaces,Nat.add_sub_cancel]
  have cutting := deleteBefore (above ++ spaces (stopBelow n)) (spaces (stepBack n)) after
  rw [← parted] at cutting
  obtain ⟨run,rfl⟩ : ∃ run, n = run + 1 := ⟨n - 1,by omega⟩
  have last : before = above ++ spaces run ++ [' '] := by
    rw [whole,List.append_assoc]
    exact congrArg (above ++ ·) List.replicate_succ'
  have previous := previousParts (above ++ spaces run) after ' '
  rw [← last] at previous
  rw [stepBack] at offset
  simp only [backspace,partsText,partsPoint,previous,leading,bind,Option.bind,offset,cut,cutting,Option.map_some]
  rfl

end

theorem backspaceJoins (front after : Text) (r : Recall) :
    backspace ⟨parts (front ++ ['\n']) after,r⟩ = some (.changed,⟨parts front after,r⟩) := by
  have begins : Indented (front ++ ['\n']) (front ++ ['\n']) 0 [] :=
    ⟨by simp [spaces],.inr ⟨front,rfl⟩,nofun,nofun⟩
  have leading := indentedLeading begins after
  simp only [backspace,partsText,partsPoint,previousParts,leading,bind,Option.bind,cut,deleteBefore,Option.map_some]
  rfl

/-! ## Many Backspaces -/

def backspaces (n : Nat) : List Key := List.replicate n { code := .backspace }

theorem pressBackspace (s : Surroundings κ) {e e' : Editor} {o : Outcome} (removed : e.backspace = some (o,e'))
    (k : κ) : e.press s k { code := .backspace } = some (o,e',k) := by
  simp only [press,removed,Option.map_some]

theorem backspacesClear (s : Surroundings κ) (k : κ) (after : Text) (r : Recall) {above : Text} :
    ∀ {n : Nat} {before : Text}, Indented before above n [] →
      pressAll s (backspaces (n ⌈/⌉ indentWidth)) ⟨parts before after,r⟩ k =
        some (List.replicate (n ⌈/⌉ indentWidth) .changed,⟨parts above after,r⟩,k) := by
  intro n
  -- on the spaces that are left, a stop at a time
  induction n using Nat.strong_induction_on with
  | _ n ih =>
    intro before indented
    rcases Nat.eq_zero_or_pos n with rfl | more
    · have whole : before = above := by rw [indented.whole]; simp [spaces]
      rw [whole]
      rfl
    · have fewer : Indented (above ++ spaces (stopBelow n)) above (stopBelow n) [] :=
        ⟨(List.append_nil _).symm,indented.top,nofun,nofun⟩
      have rest := ih (stopBelow n) (stopBelowGreatest more).1.2 fewer
      have pressed := pressBackspace s (backspaceIndents indented after r more) k
      rw [stopsLeft more,backspaces,List.replicate_succ,pressAllStep pressed,← backspaces,rest]
      rfl

theorem backspacesJoin (s : Surroundings κ) (k : κ) (front after : Text) (r : Recall) (n : Nat) :
    pressAll s (backspaces (n ⌈/⌉ indentWidth + 1)) ⟨parts (front ++ '\n' :: spaces n) after,r⟩ k =
      some (List.replicate (n ⌈/⌉ indentWidth + 1) .changed,⟨parts front after,r⟩,k) := by
  have indented : Indented (front ++ '\n' :: spaces n) (front ++ ['\n']) n [] :=
    ⟨by simp,.inr ⟨front,rfl⟩,nofun,nofun⟩
  have cleared := backspacesClear s k after r indented
  have pressed := pressBackspace s (backspaceJoins front after r) k
  rw [backspaces,List.replicate_succ',← backspaces,pressAllAppend cleared,pressAllStep pressed,
    List.replicate_succ']
  rfl

/-! ## Every point of every text -/

/- The text before a point always divides so, and what Tab, Backspace and a broken line make of it only
depends on the division. -/
theorem indentsUndone (s : Surroundings κ) (k : κ) (before after : Text) (r : Recall) :
    (∃ above n rest, Indented before above n rest) ∧
      ∀ above n rest, Indented before above n rest →
        (rest = [] →
          (∃ m, IsLeast {m | indentWidth ∣ m ∧ n < m} m ∧
            press ⟨parts before after,r⟩ s k { code := .tab } =
              some (.changed,⟨parts (above ++ spaces m) after,r⟩,k)) ∧
          (0 < n → ∃ m, IsGreatest {m | indentWidth ∣ m ∧ m < n} m ∧
            press ⟨parts before after,r⟩ s k { code := .backspace } =
              some (.changed,⟨parts (above ++ spaces m) after,r⟩,k))) ∧
        ∃ kept, (rest ≠ [] → kept = before) ∧ (rest = [] → kept = above) ∧
          breakLine ⟨parts before after,r⟩ = some ⟨parts (kept ++ '\n' :: spaces n) after,r⟩ ∧
          pressAll s (backspaces (n ⌈/⌉ indentWidth + 1)) ⟨parts (kept ++ '\n' :: spaces n) after,r⟩ k =
            some (List.replicate (n ⌈/⌉ indentWidth + 1) .changed,⟨parts kept after,r⟩,k) := by
  refine ⟨Text.indentedExists before,fun above n rest indented => ⟨?_,?_⟩⟩
  · rintro rfl
    exact ⟨⟨stopAbove n,stopAboveLeast n,tabIndents indented after r s k⟩,fun more =>
      ⟨stopBelow n,stopBelowGreatest more,pressBackspace s (backspaceIndents indented after r more) k⟩⟩
  · refine ⟨if rest = [] then above else before,fun content => if_neg content,fun none => if_pos none,?_,
      backspacesJoin s k _ after r n⟩
    rw [breakLineParts,Text.indentedBroken indented]

theorem indentsUndoneDeep :
    Indented ['a','\n',' ',' ',' ',' ',' '] ['a','\n'] 5 [] ∧ Indented [' ',' ','b'] [] 2 ['b'] ∧
      press ⟨parts ['a','\n',' ',' ',' ',' ',' '] ['}'],{}⟩ (quietSurroundings .lexical) () { code := .tab } =
        some (.changed,⟨parts (['a','\n'] ++ spaces 8) ['}'],{}⟩,()) ∧
      press ⟨parts ['a','\n',' ',' ',' ',' ',' '] ['}'],{}⟩ (quietSurroundings .lexical) () { code := .backspace } =
        some (.changed,⟨parts (['a','\n'] ++ spaces 4) ['}'],{}⟩,()) ∧
      breakLine ⟨parts [' ',' ','b'] ['}'],{}⟩ = some ⟨parts [' ',' ','b','\n',' ',' '] ['}'],{}⟩ ∧
      pressAll (quietSurroundings .lexical) (backspaces 2) ⟨parts [' ',' ','b','\n',' ',' '] ['}'],{}⟩ () =
        some ([.changed,.changed],⟨parts [' ',' ','b'] ['}'],{}⟩,()) := by
  have five : Indented ['a','\n',' ',' ',' ',' ',' '] ['a','\n'] 5 [] := ⟨rfl,.inr ⟨['a'],rfl⟩,nofun,nofun⟩
  have word : Indented [' ',' ','b'] [] 2 ['b'] := ⟨rfl,.inl rfl,by decide,by decide⟩
  obtain ⟨stops,_⟩ := (indentsUndone (quietSurroundings .lexical) () _ ['}'] {}).2 _ _ _ five
  obtain ⟨⟨m,least,tabbed⟩,back⟩ := stops rfl
  obtain ⟨m',greatest,removed⟩ := back (by decide)
  obtain rfl := least.unique (stopAboveLeast 5)
  obtain rfl := greatest.unique (stopBelowGreatest (show 0 < 5 by decide))
  obtain ⟨_,kept,same,_,broken,joined⟩ := (indentsUndone (quietSurroundings .lexical) () _ ['}'] {}).2 _ _ _ word
  obtain rfl := same (by decide)
  exact ⟨five,word,tabbed,removed,broken,joined⟩

end Editor

end ScriptConsole
