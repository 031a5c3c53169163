import ScriptConsole.Proofs.Edit.Zipper

/-! Edits one after another. A buffer stands for two texts, the one before the point and the one after it.
What an edit does is said of the two texts; offsets count the bytes of both together. The buffer goes
where the two texts go, and has no result only for a deletion that would cut a character. -/
namespace ScriptConsole.Buffer
open Text (size sizeAppend splitAppend splitSound splitsNested splitsSame)

structure Zipper where
  before : Text
  after : Text
  deriving DecidableEq, Repr

def Zipper.text (z : Zipper) : Text := z.before ++ z.after

def Zipper.buffer (z : Zipper) : Buffer := parts z.before z.after

structure Zipper.SplitsAt (z : Zipper) (t : Text) (n : Nat) : Prop where
  whole : z.text = t
  fits : size z.before ≤ n
  last : ∀ before after, t = before ++ after → size before ≤ n → size before ≤ size z.before

/- The point is on the character that as many others precede as stand before it. Of a text of three parts
the middle goes: a point on a character that stays is on it afterwards. -/
structure Zipper.Removes (z z' : Zipper) (pre mid post : Text) : Prop where
  left : z'.text = pre ++ post
  ahead : z.before.length < pre.length → z'.before = z.before
  behind : (pre ++ mid).length ≤ z.before.length → z'.after = z.after
  gone : pre.length ≤ z.before.length → z.before.length < (pre ++ mid).length → z'.before = pre

inductive Zipper.Does : Zipper → Edit → Zipper → Prop
  | insert (before after s) : Does ⟨before,after⟩ (.insert s) ⟨before ++ s,after⟩
  | insertChar (before after c) : Does ⟨before,after⟩ (.insertChar c) ⟨before ++ [c],after⟩
  | setPoint {z z' : Zipper} {n} (splits : z'.SplitsAt z.text n) : Does z (.setPoint n) z'
  | delete {z z' : Zipper} {start stop pre mid post} (range : Range z.text start stop pre mid post)
      (removes : z.Removes z' pre mid post) : Does z (.delete start stop) z'
  | replace {z z' : Zipper} {t n} (splits : z'.SplitsAt t n) : Does z (.replace t n) z'
  | take (z) : Does z .take ⟨[],[]⟩

inductive Zipper.Runs : Zipper → List Edit → Zipper → Prop
  | nil (z) : Runs z [] z
  | cons {z z₁ z₂ e rest} (first : z.Does e z₁) (next : Runs z₁ rest z₂) : Runs z (e :: rest) z₂

structure Zipper.Shows (z : Zipper) (b : Buffer) : Prop where
  text : b.text = z.before ++ z.after
  point : b.point = size z.before
  atStart : z.before = [] → b.previous? = some none
  previous : ∀ front c, z.before = front ++ [c] → b.previous? = some (some (size front))
  atStop : z.after = [] → b.next? = some none
  next : ∀ c rest, z.after = c :: rest → b.next? = some (some (size (z.before ++ [c])))
  atEnd : b.atEnd = true ↔ z.after = []
  empty : b.isEmpty = true ↔ z.before = [] ∧ z.after = []
  taken : b.take.1 = z.text

def Limit (t : Text) (n : Nat) : Prop := size t ≤ n ∨ ∃ before after, t = before ++ after ∧ size before = n

def Edit.Within (t : Text) : Edit → Prop
  | delete start stop => Limit t start ∧ Limit t stop
  | _ => True

def Within : Buffer → List Edit → Prop
  | _,[] => True
  | b,e :: rest => e.Within b.text ∧ ∀ b' ∈ b.edit? e, Within b' rest

theorem limitIff {t : Text} {n : Nat} : Limit t n ↔ size t ≤ n ∨ (Text.split? t n).isSome = true := by
  refine or_congr Iff.rfl ⟨?_,fun split => ?_⟩
  · rintro ⟨before,after,rfl,rfl⟩
    rw [splitAppend]
    rfl
  · obtain ⟨⟨before,after⟩,found⟩ := Option.isSome_iff_exists.mp split
    obtain ⟨whole,offset⟩ := splitSound found
    exact ⟨before,after,whole,offset.symm⟩

instance (t n) : Decidable (Limit t n) := decidable_of_iff _ limitIff.symm

instance (t) : (e : Edit) → Decidable (e.Within t)
  | .delete start stop => inferInstanceAs (Decidable (Limit t start ∧ Limit t stop))
  | .insert _ | .insertChar _ | .setPoint _ | .replace _ _ | .take => isTrue trivial

instance decideWithin : (b : Buffer) → (edits : List Edit) → Decidable (Within b edits)
  | _,[] => isTrue trivial
  | b,e :: rest =>
      have : DecidablePred (Within · rest) := fun b' => decideWithin b' rest
      inferInstanceAs (Decidable (e.Within b.text ∧ ∀ b' ∈ b.edit? e, Within b' rest))

theorem zipperShows (z : Zipper) : z.Shows z.buffer where
  text := rfl
  point := rfl
  atStart none := by rw [Zipper.buffer,none]; exact previousStart z.after
  previous front c last := by rw [Zipper.buffer,last]; exact previousParts front z.after c
  atStop none := by rw [Zipper.buffer,none]; exact nextEnd z.before
  next c rest first := by rw [Zipper.buffer,first]; exact nextParts z.before rest c
  atEnd := by
    constructor
    · intro ended
      cases content : z.after with
      | nil => rfl
      | cons c rest =>
        have inside := partsInside z.before (List.cons_ne_nil c rest)
        rw [Zipper.buffer,content,inside] at ended
        cases ended
    · intro none
      rw [Zipper.buffer,none]
      exact partsEnd z.before
  empty := by rw [isEmpty,List.isEmpty_iff,Zipper.buffer,partsText,List.append_eq_nil_iff]
  taken := rfl

/-! ## The two texts have one way to go -/

theorem splitsAtOnly {z z' : Zipper} {t : Text} {n : Nat} (splits : z.SplitsAt t n)
    (splits' : z'.SplitsAt t n) : z = z' := by
  have same := splits.whole.trans splits'.whole.symm
  have lower := splits'.last z.before z.after splits.whole.symm splits.fits
  have upper := splits.last z'.before z'.after splits'.whole.symm splits'.fits
  obtain ⟨before,after⟩ := splitsSame same (Nat.le_antisymm lower upper)
  cases z
  cases z'
  cases before
  cases after
  rfl

theorem splitsFloor (t : Text) (n : Nat) :
    ∃ z : Zipper, z.SplitsAt t n ∧ (⟨t,Text.floorOffset t n⟩ : Buffer) = z.buffer := by
  obtain ⟨before,after,rfl,offset⟩ := Text.floorSplits t n
  refine ⟨⟨before,after⟩,⟨rfl,?_,?_⟩,by rw [offset]; rfl⟩
  · exact offset ▸ Text.floorFits (before ++ after) n
  · rintro front back same fits
    rw [← offset,same]
    exact Text.floorGreatest front back fits

theorem splitsOffset {z : Zipper} {t : Text} {n : Nat} (splits : z.SplitsAt t n) :
    (⟨t,Text.floorOffset t n⟩ : Buffer) = z.buffer := by
  obtain ⟨z₁,splits₁,same⟩ := splitsFloor t n
  rw [splitsAtOnly splits splits₁]
  exact same

/-! A point ahead of the part that goes, in it, and behind it. A point at a border is in two of the cases,
which then agree. -/

theorem removesAhead (before right mid post : Text) :
    Zipper.Removes ⟨before,right ++ mid ++ post⟩ ⟨before,right ++ post⟩ (before ++ right) mid post ∧
      pointWithout (before ++ right) mid (size before) = size before := by
  refine ⟨⟨by simp [Zipper.text],fun _ => rfl,?_,?_⟩,?_⟩
  · intro behind
    simp only [List.length_append] at behind
    have none : mid = [] := List.length_eq_zero_iff.mp (by omega)
    simp [none]
  · intro start _
    simp only [List.length_append] at start
    have none : right = [] := List.length_eq_zero_iff.mp (by omega)
    simp [none]
  · exact pointAhead (by rw [sizeAppend]; omega)

theorem removesInside (pre left right post : Text) :
    Zipper.Removes ⟨pre ++ left,right ++ post⟩ ⟨pre,post⟩ pre (left ++ right) post ∧
      pointWithout pre (left ++ right) (size (pre ++ left)) = size pre := by
  refine ⟨⟨rfl,?_,?_,fun _ _ => rfl⟩,?_⟩
  · intro ahead
    simp only [List.length_append] at ahead
    omega
  · intro behind
    simp only [List.length_append] at behind
    have none : right = [] := List.length_eq_zero_iff.mp (by omega)
    simp [none]
  · exact pointInside (by rw [sizeAppend]; omega) (by simp only [sizeAppend]; omega)

theorem removesBehind (pre mid left after : Text) :
    Zipper.Removes ⟨pre ++ mid ++ left,after⟩ ⟨pre ++ left,after⟩ pre mid (left ++ after) ∧
      pointWithout pre mid (size (pre ++ mid ++ left)) = size (pre ++ left) := by
  refine ⟨⟨by simp [Zipper.text],?_,fun _ => rfl,?_⟩,?_⟩
  · intro ahead
    simp only [List.length_append] at ahead
    omega
  · intro _ gone
    simp only [List.length_append] at gone
    omega
  · rw [pointBehind (by rw [sizeAppend (pre ++ mid)]; omega)]
    simp only [sizeAppend]
    omega

theorem removesExists {z : Zipper} {pre mid post : Text} (whole : z.text = pre ++ mid ++ post) :
    ∃ z' : Zipper, z.Removes z' pre mid post ∧ pointWithout pre mid (size z.before) = size z'.before := by
  obtain ⟨before,after⟩ := z
  rcases List.append_eq_append_iff.mp whole with ⟨tail,front,rfl⟩ | ⟨left,rfl,rfl⟩
  · rcases List.append_eq_append_iff.mp front with ⟨left,rfl,rfl⟩ | ⟨right,rfl,rfl⟩
    · exact ⟨_,removesInside pre left tail post⟩
    · exact ⟨_,removesAhead before right mid post⟩
  · exact ⟨_,removesBehind pre mid left after⟩

theorem removesOnly {z z₁ z₂ : Zipper} {pre mid post : Text} (removes₁ : z.Removes z₁ pre mid post)
    (removes₂ : z.Removes z₂ pre mid post) : z₁ = z₂ := by
  have same := removes₁.left.trans removes₂.left.symm
  obtain ⟨before₁,after₁⟩ := z₁
  obtain ⟨before₂,after₂⟩ := z₂
  by_cases ahead : z.before.length < pre.length
  · obtain rfl : before₁ = before₂ := (removes₁.ahead ahead).trans (removes₂.ahead ahead).symm
    exact congrArg (Zipper.mk before₁) (List.append_cancel_left same)
  · by_cases behind : (pre ++ mid).length ≤ z.before.length
    · obtain rfl : after₁ = after₂ := (removes₁.behind behind).trans (removes₂.behind behind).symm
      exact congrArg (Zipper.mk · after₁) (List.append_cancel_right same)
    · obtain rfl : before₁ = before₂ :=
        (removes₁.gone (by omega) (by omega)).trans (removes₂.gone (by omega) (by omega)).symm
      exact congrArg (Zipper.mk before₁) (List.append_cancel_left same)

theorem deleteRemoves {z z' : Zipper} {pre mid post : Text} {start stop : Nat}
    (range : Range z.text start stop pre mid post) (removes : z.Removes z' pre mid post) :
    z.buffer.delete? start stop = some z'.buffer := by
  obtain ⟨z₁,removes₁,point⟩ := removesExists range.whole
  obtain rfl : z' = z₁ := removesOnly removes removes₁
  have deleted : z.buffer.delete? start stop = some ⟨pre ++ post,pointWithout pre mid (size z.before)⟩ :=
    deleteRange range (size z.before)
  rw [deleted,point,← removes.left]
  rfl

/-! ## The edits that a text takes -/

theorem limitSplits {t : Text} {n : Nat} (limit : Limit t n) :
    ∃ before after, t = before ++ after ∧ size before = min n (size t) := by
  rcases limit with past | ⟨before,after,rfl,rfl⟩
  · exact ⟨t,[],(List.append_nil t).symm,by omega⟩
  · exact ⟨before,after,rfl,by rw [sizeAppend]; omega⟩

theorem limitsRange {t : Text} {start stop : Nat} (starts : Limit t start) (stops : Limit t stop) :
    ∃ pre mid post, Range t start stop pre mid post := by
  obtain ⟨pre,rest,whole,first⟩ := limitSplits starts
  obtain ⟨front,post,whole',last⟩ := limitSplits stops
  by_cases forward : size pre ≤ size front
  · obtain ⟨mid,rfl,_⟩ := splitsNested (whole.symm.trans whole') forward
    exact ⟨pre,mid,post,whole',first,by omega⟩
  · exact ⟨pre,[],rest,by rw [whole,List.append_nil],first,by rw [List.append_nil]; omega⟩

theorem deleteRanged {b b' : Buffer} {start stop : Nat} (deleted : b.delete? start stop = some b') :
    ∃ pre mid post, Range b.text start stop pre mid post := by
  simp only [delete?,bind,Option.bind_eq_some_iff] at deleted
  obtain ⟨⟨pre,tail⟩,first,⟨mid,post⟩,last,_⟩ := deleted
  obtain ⟨whole,starts⟩ := splitSound first
  obtain ⟨rfl,length⟩ := splitSound last
  exact ⟨pre,mid,post,by rw [whole,List.append_assoc],starts.symm,by rw [sizeAppend]; omega⟩

theorem editDoes {z : Zipper} {e : Edit} {b : Buffer} (done : z.buffer.edit? e = some b) :
    ∃ z', z.Does e z' ∧ b = z'.buffer := by
  cases e with
  | insert s =>
    rw [edit?,Zipper.buffer,insertParts] at done
    exact ⟨_,.insert z.before z.after s,(Option.some.inj done).symm⟩
  | insertChar c =>
    rw [edit?,insertChar?,Zipper.buffer,insertParts] at done
    exact ⟨_,.insertChar z.before z.after c,(Option.some.inj done).symm⟩
  | setPoint n =>
    obtain ⟨z',splits,same⟩ := splitsFloor z.text n
    exact ⟨z',.setPoint splits,(Option.some.inj done).symm.trans same⟩
  | delete start stop =>
    obtain ⟨pre,mid,post,range⟩ := deleteRanged done
    obtain ⟨z',removes,_⟩ := removesExists range.whole
    exact ⟨z',.delete range removes,Option.some.inj (done.symm.trans (deleteRemoves range removes))⟩
  | replace t n =>
    obtain ⟨z',splits,same⟩ := splitsFloor t n
    exact ⟨z',.replace splits,(Option.some.inj done).symm.trans same⟩
  | take => exact ⟨_,.take z,(Option.some.inj done).symm⟩

theorem doesEdit {z z' : Zipper} {e : Edit} (does : z.Does e z') : z.buffer.edit? e = some z'.buffer := by
  cases does with
  | insert before after s => exact insertParts before after s
  | insertChar before after c => exact insertParts before after [c]
  | setPoint splits => exact congrArg some (splitsOffset splits)
  | delete range removes => exact deleteRemoves range removes
  | replace splits => exact congrArg some (splitsOffset splits)
  | take z => rfl

theorem editPossible {z : Zipper} {e : Edit} (within : e.Within z.text) : ∃ z', z.Does e z' := by
  cases e with
  | insert s => exact ⟨_,.insert z.before z.after s⟩
  | insertChar c => exact ⟨_,.insertChar z.before z.after c⟩
  | setPoint n =>
    obtain ⟨z',splits,_⟩ := splitsFloor z.text n
    exact ⟨z',.setPoint splits⟩
  | delete start stop =>
    obtain ⟨pre,mid,post,range⟩ := limitsRange within.1 within.2
    obtain ⟨z',removes,_⟩ := removesExists range.whole
    exact ⟨z',.delete range removes⟩
  | replace t n =>
    obtain ⟨z',splits,_⟩ := splitsFloor t n
    exact ⟨z',.replace splits⟩
  | take => exact ⟨_,.take z⟩

/-! ## Any number of edits -/

theorem editsRun {edits : List Edit} {z : Zipper} {b : Buffer} :
    edits.foldlM edit? z.buffer = some b ↔ ∃ z', z.Runs edits z' ∧ b = z'.buffer := by
  induction edits generalizing z with
  | nil =>
    constructor
    · intro done
      exact ⟨z,.nil z,(Option.some.inj done).symm⟩
    · rintro ⟨z',runs,rfl⟩
      cases runs
      rfl
  | cons e rest ih =>
    rw [List.foldlM_cons,Option.bind_eq_bind,Option.bind_eq_some_iff]
    constructor
    · rintro ⟨b₁,first,done⟩
      obtain ⟨z₁,does,rfl⟩ := editDoes first
      obtain ⟨z₂,runs,same⟩ := ih.mp done
      exact ⟨z₂,.cons does runs,same⟩
    · rintro ⟨z₂,runs,same⟩
      cases runs with
      | @cons _ z₁ _ _ _ does next => exact ⟨z₁.buffer,doesEdit does,ih.mpr ⟨z₂,next,same⟩⟩

theorem runsPossible {edits : List Edit} {z : Zipper} (within : Within z.buffer edits) :
    ∃ z', z.Runs edits z' := by
  induction edits generalizing z with
  | nil => exact ⟨z,.nil z⟩
  | cons e rest ih =>
    obtain ⟨z₁,does⟩ := editPossible (z := z) within.1
    obtain ⟨z₂,runs⟩ := ih (within.2 z₁.buffer (doesEdit does))
    exact ⟨z₂,.cons does runs⟩

/- A row of edits stands for all its moments: each of its fronts is such a row. -/
theorem editsFollowTexts (edits : List Edit) :
    (∀ b, edits.foldlM edit? empty = some b ↔ ∃ z, Zipper.Runs ⟨[],[]⟩ edits z ∧ b = z.buffer) ∧
      (Within empty edits → ∃ z, Zipper.Runs ⟨[],[]⟩ edits z ∧ edits.foldlM edit? empty = some z.buffer) ∧
      ∀ z : Zipper, z.Shows z.buffer := by
  refine ⟨fun b => editsRun (z := ⟨[],[]⟩),fun within => ?_,zipperShows⟩
  obtain ⟨z,runs⟩ := runsPossible (z := ⟨[],[]⟩) within
  exact ⟨z,runs,editsRun.mpr ⟨z,runs,rfl⟩⟩

def sampleEdits : List Edit := [.insert ['a','é','日'],.setPoint 2,.insertChar 'x',.delete 2 100]

theorem editsFollowTextsSample :
    Within empty sampleEdits ∧
      (∃ z, Zipper.Runs ⟨[],[]⟩ sampleEdits z ∧ sampleEdits.foldlM edit? empty = some z.buffer) ∧
      sampleEdits.foldlM edit? empty = some (parts ['a','x'] []) := by
  have within : Within empty sampleEdits := by decide
  exact ⟨within,(editsFollowTexts sampleEdits).2.1 within,by decide⟩

end ScriptConsole.Buffer
