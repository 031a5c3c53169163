import ScriptConsole.Edit.Buffer
import ScriptConsole.Proofs.Text.Offset

/-! The edited text as the part before the point and the part after it. A buffer is placed when its
point falls between two characters; every operation keeps that, and acts on the two parts alone. -/
namespace ScriptConsole.Buffer

def parts (before after : Text) : Buffer := ⟨before ++ after,Text.size before⟩

theorem partsText (before after : Text) : (parts before after).text = before ++ after := rfl

theorem partsPoint (before after : Text) : (parts before after).point = Text.size before := rfl

theorem partsEnd (before : Text) : (parts before []).atEnd = true := by
  rw [atEnd,partsText,partsPoint,List.append_nil,beq_iff_eq]

theorem partsInside (before : Text) {after : Text} (content : after ≠ []) :
    (parts before after).atEnd = false := by
  have more := Text.sizePositive content
  rw [atEnd,partsText,partsPoint,Text.sizeAppend,beq_eq_false_iff_ne]
  omega

def Placed (b : Buffer) : Prop := ∃ before after, b = parts before after

theorem emptyPlaced : Placed empty := ⟨[],[],rfl⟩

theorem placedEmpty {b : Buffer} (placed : b.Placed) (none : b.isEmpty = true) : b = {} := by
  obtain ⟨before,after,rfl⟩ := placed
  obtain ⟨rfl,rfl⟩ := List.append_eq_nil_iff.mp (List.isEmpty_iff.mp none)
  rfl

theorem setPointPlaced (b : Buffer) (n : Nat) : (b.setPoint n).Placed := by
  obtain ⟨before,after,whole,offset⟩ := Text.floorSplits b.text n
  exact ⟨before,after,by simp [setPoint,parts,whole.symm,offset]⟩

theorem replacePlaced (t : Text) (n : Nat) : (replace t n).Placed := setPointPlaced ⟨t,0⟩ n

theorem insertParts (before after s : Text) :
    (parts before after).insert? s = some (parts (before ++ s) after) := by
  simp [insert?,parts,Text.splitAppend,Text.sizeAppend]

theorem previousParts (before after : Text) (c : Char) :
    (parts (before ++ [c]) after).previous? = some (some (Text.size before)) := by
  have back : Text.size (before ++ [c]) - c.utf8Size = Text.size before := by
    simp only [Text.sizeAppend,Text.size]; omega
  simp only [previous?,parts,Text.splitAppend,Option.map_some,List.getLast?_concat,back]

theorem previousStart (after : Text) : (parts [] after).previous? = some none := by
  cases after <;> rfl

theorem nextParts (before after : Text) (c : Char) :
    (parts before (c :: after)).next? = some (some (Text.size (before ++ [c]))) := by
  simp [next?,parts,Text.splitAppend,Text.sizeAppend,Text.size]

theorem nextEnd (before : Text) : (parts before []).next? = some none := by
  simp [next?,parts,Text.splitSize]

structure Range (t : Text) (start stop : Nat) (pre mid post : Text) : Prop where
  whole : t = pre ++ mid ++ post
  starts : Text.size pre = min start (Text.size t)
  stops : Text.size (pre ++ mid) = max (Text.size pre) (min stop (Text.size t))

theorem rangeOfParts (pre mid post : Text) :
    Range (pre ++ mid ++ post) (Text.size pre) (Text.size (pre ++ mid)) pre mid post :=
  ⟨rfl,by simp only [Text.sizeAppend]; omega,by simp only [Text.sizeAppend]; omega⟩

def pointWithout (pre mid : Text) (point : Nat) : Nat :=
  if Text.size (pre ++ mid) ≤ point then point - Text.size mid
  else if Text.size pre < point then Text.size pre
  else point

section
variable {pre mid : Text} {point : Nat}

theorem pointAhead (ahead : point ≤ Text.size pre) : pointWithout pre mid point = point := by
  rw [pointWithout,Text.sizeAppend]
  split
  · omega
  · exact if_neg (Nat.not_lt.mpr ahead)

theorem pointBehind (behind : Text.size (pre ++ mid) ≤ point) :
    pointWithout pre mid point = point - Text.size mid := if_pos behind

theorem pointInside (start : Text.size pre ≤ point) (stop : point ≤ Text.size (pre ++ mid)) :
    pointWithout pre mid point = Text.size pre := by
  rw [Text.sizeAppend] at stop
  rw [pointWithout,Text.sizeAppend]
  split
  · omega
  · split <;> omega

end

theorem deleteRange {t pre mid post : Text} {start stop : Nat} (range : Range t start stop pre mid post)
    (point : Nat) : delete? ⟨t,point⟩ start stop = some ⟨pre ++ post,pointWithout pre mid point⟩ := by
  have length : Text.size (pre ++ mid) - Text.size pre = Text.size mid := by
    rw [Text.sizeAppend]; omega
  have head : Text.split? t (Text.size pre) = some (pre,mid ++ post) := by
    rw [range.whole,List.append_assoc]; exact Text.splitAppend pre (mid ++ post)
  simp only [delete?,← range.starts,← range.stops,length,head,Text.splitAppend,bind,Option.bind,pointWithout]

theorem deleteBefore (pre mid after : Text) :
    (parts (pre ++ mid) after).delete? (Text.size pre) (Text.size (pre ++ mid)) =
      some (parts pre after) := by
  rw [parts,deleteRange (rangeOfParts pre mid after),pointBehind (Nat.le_refl _),Text.sizeAppend,
    Nat.add_sub_cancel,parts]

theorem deleteAfter (before mid post : Text) :
    (parts before (mid ++ post)).delete? (Text.size before) (Text.size (before ++ mid)) =
      some (parts before post) := by
  rw [parts,← List.append_assoc,deleteRange (rangeOfParts before mid post),pointAhead (Nat.le_refl _),parts]

end ScriptConsole.Buffer
