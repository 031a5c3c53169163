import ScriptConsole.Edit.Editor
import ScriptConsole.Proofs.Edit.Zipper
import ScriptConsole.Proofs.Text.Row

/-! Up and down through the history. The lines of all entries, oldest first, and of the typed text after
them are one document: a vertical move goes to the line above or below, and the text shown is the one
that the line belongs to. -/
namespace ScriptConsole.Editor
open Text (rows rowsLength rowsExist cells)

inductive Vertical
  | up | down
  deriving DecidableEq, Repr

def vertical (entries : List Text) (e : Editor) : Vertical → Option (Outcome × Editor)
  | .up => e.lineUp entries
  | .down => e.lineDown entries

def pages (entries : List Text) (typed : Text) : List Text := entries ++ [typed]

def document (entries : List Text) (typed : Text) : List Text := (pages entries typed).flatMap rows

structure Place where
  page : Nat
  above : Text
  left : Text
  right : Text
  below : Text

def Place.index (entries : List Text) (typed : Text) (p : Place) : Nat :=
  (((pages entries typed).take p.page).flatMap rows).length + p.above.count '\n'

structure Stands (entries : List Text) (typed : Text) (e : Editor) (p : Place) : Prop where
  page : (pages entries typed)[p.page]? = some e.buffer.text
  row : Text.Row e.buffer.text p.above (p.left ++ p.right) p.below
  point : e.buffer.point = Text.size (p.above ++ p.left)
  recalled : e.recalled = if p.page = entries.length then {} else ⟨some p.page,some typed⟩

def neighbour (count i : Nat) : Vertical → Option Nat
  | .up => if i = 0 then none else some (i - 1)
  | .down => if i + 1 < count then some (i + 1) else none

/- A move from a place: at an end of the document it changes nothing at all. -/
def Moves (entries : List Text) (typed : Text) (e : Editor) (p : Place) (move : Vertical) : Prop :=
  match neighbour (document entries typed).length (p.index entries typed) move with
  | none => e.vertical entries move = some (.ignored,e)
  | some i => ∃ e' p', e.vertical entries move = some (.changed,e') ∧ Stands entries typed e' p' ∧
      p'.index entries typed = i ∧ Text.Lands (cells p.left) p'.left p'.right

section
variable {entries : List Text} {typed : Text} {e : Editor} {p : Place}

theorem documentParts {t : Text} {k : Nat} (page : (pages entries typed)[k]? = some t) :
    document entries typed = ((pages entries typed).take k).flatMap rows ++
      (rows t ++ ((pages entries typed).drop (k + 1)).flatMap rows) := by
  obtain ⟨inside,here⟩ := List.getElem?_eq_some_iff.mp page
  rw [← List.flatMap_cons,← here,← List.drop_eq_getElem_cons inside,← List.flatMap_append,List.take_append_drop]
  rfl

theorem standsLine (stands : Stands entries typed e p) :
    (document entries typed)[p.index entries typed]? = some (p.left ++ p.right) := by
  have line := Text.rowAt stands.row
  have inside := (List.getElem?_eq_some_iff.mp line).1
  rw [documentParts stands.page,Place.index,List.getElem?_append_right (Nat.le_add_right _ _),
    Nat.add_sub_cancel_left,List.getElem?_append_left inside]
  exact line

theorem pageTurn {t : Text} {k : Nat} (page : (pages entries typed)[k]? = some t) :
    (((pages entries typed).take (k + 1)).flatMap rows).length =
      (((pages entries typed).take k).flatMap rows).length + (rows t).length := by
  obtain ⟨inside,here⟩ := List.getElem?_eq_some_iff.mp page
  rw [List.take_succ_eq_append_getElem inside,List.flatMap_append,List.length_append,List.flatMap_singleton,here]

theorem rowsSplit (l : List Text) (i : Nat) :
    ((l.take i).flatMap rows).length + ((l.drop i).flatMap rows).length = (l.flatMap rows).length := by
  rw [← List.length_append,← List.flatMap_append,List.take_append_drop]

theorem pagesTake {k : Nat} (inside : k < entries.length) :
    (pages entries typed).take (k + 1) = entries.take (k + 1) := List.take_append_of_le_length inside

theorem rowCount {t above line below : Text} (row : Text.Row t above line below) :
    (rows t).length = above.count '\n' + below.count '\n' + 1 := by
  rw [rowsLength,row.whole,List.count_append,List.count_append,Text.countNone row.one]
  omega

theorem indexPage (stands : Stands entries typed e p) :
    (((pages entries typed).take p.page).flatMap rows).length ≤ p.index entries typed ∧
      p.index entries typed + p.below.count '\n' + 1 =
        (((pages entries typed).take (p.page + 1)).flatMap rows).length := by
  have lines := rowCount stands.row
  have turned := pageTurn stands.page
  rw [Place.index]
  omega

theorem moveToPlace (e : Editor) {before after : Text} (whole : e.buffer.text = before ++ after) :
    (e.moveTo (Text.size before)).2 = ⟨Buffer.parts before after,e.recalled⟩ := by
  rw [moveTo]
  split
  · rename_i here
    obtain ⟨⟨text,point⟩,recalled⟩ := e
    simp only at whole here
    rw [Buffer.parts,← whole,here]
  · simp only [withBuffer,Buffer.setPoint,whole,Text.floorAppend,Buffer.parts]

theorem replacePlace (before after : Text) :
    Buffer.replace (before ++ after) (Text.size before) = Buffer.parts before after := by
  simp only [Buffer.replace,Buffer.setPoint,Text.floorAppend,Buffer.parts]

theorem arrives {t above line below : Text} {k : Nat} {r : Recall} (column : Nat)
    (page : (pages entries typed)[k]? = some t) (row : Text.Row t above line below)
    (recalled : r = if k = entries.length then {} else ⟨some k,some typed⟩) :
    ∃ left right, Text.offsetAtColumn? t ⟨Text.size above,Text.size (above ++ line)⟩ column =
        some (Text.size (above ++ left)) ∧
      t = (above ++ left) ++ (right ++ below) ∧ Text.Lands column left right ∧
      Stands entries typed ⟨Buffer.parts (above ++ left) (right ++ below),r⟩ ⟨k,above,left,right,below⟩ := by
  obtain ⟨left,right,rfl,lands,offset⟩ := Text.rowLanding row column
  have parts := Text.rowParts row
  exact ⟨left,right,offset,parts,lands,⟨by rw [Buffer.partsText,← parts]; exact page,
    by rw [Buffer.partsText,← parts]; exact row,rfl,recalled⟩⟩

theorem upWithin (stands : Stands entries typed e p) {front : Text} (top : p.above = front ++ ['\n']) :
    ∃ e' p', e.lineUp entries = some (.changed,e') ∧ Stands entries typed e' p' ∧
      p'.index entries typed + 1 = p.index entries typed ∧ Text.Lands (cells p.left) p'.left p'.right := by
  obtain ⟨k,above,left,right,below⟩ := p
  simp only at top
  subst top
  have start := Text.rowStart stands.row
  have column := Text.rowColumn stands.row
  obtain ⟨above',below',row,whole,tail⟩ := Text.rowExists front ('\n' :: (left ++ right) ++ below)
  have rest : Text.restOfLine ('\n' :: (left ++ right) ++ below) = [] := rfl
  have text : e.buffer.text = front ++ ('\n' :: (left ++ right) ++ below) := by rw [stands.row.whole]; simp
  rw [rest,List.append_nil,← text] at row
  have span := Text.rowSpanStop row
  rw [← whole] at span
  obtain ⟨left',right',offset,parts,lands,stands'⟩ := arrives (cells left) stands.page row stands.recalled
  rw [← whole] at offset
  refine ⟨_,⟨k,above',left',right',below'⟩,?_,stands',?_,lands⟩
  · have lower : Text.size (front ++ ['\n']) - 1 = Text.size front := by rw [Text.sizeAppend]; rfl
    have under : ¬ Text.size (front ++ ['\n']) = 0 := by rw [Text.sizeAppend]; exact Nat.succ_ne_zero _
    simp only [lineUp,stands.point,start,column,bind,Option.bind,if_neg under,lower,span,offset,
      moveToPlace e parts]
  · have count : front.count '\n' = above'.count '\n' := by
      conv => lhs; rw [whole]
      rw [List.count_append,Text.countNone (Text.openLineOne front),Nat.add_zero]
    simp only [Place.index,List.count_append,count]
    rfl

theorem standsPage (stands : Stands entries typed e p) : p.page ≤ entries.length := by
  have inside := (List.getElem?_eq_some_iff.mp stands.page).1
  simp only [pages,List.length_append,List.length_singleton] at inside
  omega

theorem pageEntry {k : Nat} (inside : k < entries.length) : (pages entries typed)[k]? = entries[k]? :=
  List.getElem?_append_left inside

theorem pageTyped : (pages entries typed)[entries.length]? = some typed := List.getElem?_concat_length

theorem standsTyped (stands : Stands entries typed e p) (last : p.page = entries.length) :
    e.buffer.text = typed := by
  have page := stands.page
  rw [last,pageTyped] at page
  exact (Option.some.inj page).symm

theorem previousPage (stands : Stands entries typed e p) {k : Nat} (page : p.page = k + 1) :
    ∃ entry, (pages entries typed)[k]? = some entry ∧ k < entries.length ∧
      e.recalled.previous entries e.buffer.text = (some entry,⟨some k,some typed⟩) := by
  have bound := standsPage stands
  have inside : k < entries.length := by omega
  refine ⟨entries[k],by rw [pageEntry inside,List.getElem?_eq_getElem inside],inside,?_⟩
  have entry := List.getElem?_eq_getElem inside
  rw [stands.recalled,page]
  by_cases last : k + 1 = entries.length
  · rw [if_pos last,standsTyped stands (page.trans last)]
    simp only [Recall.previous,Option.getD_none,← last,if_true,entry]
  · rw [if_neg last]
    simp only [Recall.previous,Option.getD_some,if_neg last,entry]

theorem firstPage (stands : Stands entries typed e p) (page : p.page = 0) :
    e.recalled.previous entries e.buffer.text = (none,e.recalled) := by
  rw [stands.recalled,page]
  by_cases none : 0 = entries.length
  · rw [if_pos none]
    simp only [Recall.previous,Option.getD_none,← none]
  · rw [if_neg none]
    rfl

theorem upTurn (stands : Stands entries typed e p) (top : p.above = []) {k : Nat} (page : p.page = k + 1) :
    ∃ e' p', e.lineUp entries = some (.changed,e') ∧ Stands entries typed e' p' ∧
      p'.index entries typed + 1 = p.index entries typed ∧ Text.Lands (cells p.left) p'.left p'.right := by
  obtain ⟨entry,there,inside,previous⟩ := previousPage stands page
  obtain ⟨_,above,left,right,below⟩ := p
  simp only at top page
  subst top page
  have start := Text.rowStart stands.row
  have column := Text.rowColumn stands.row
  obtain ⟨above',below',row,whole,tail⟩ := Text.rowExists entry []
  obtain rfl : below' = [] := (List.append_eq_nil_iff.mp tail.symm).2
  have rest : Text.restOfLine [] = [] := rfl
  rw [rest,List.append_nil,List.append_nil] at row
  have span := Text.rowSpanStop row
  rw [← whole] at span
  obtain ⟨left',right',offset,parts,lands,stands'⟩ := arrives (cells left) there row
    (if_neg (Nat.ne_of_lt inside)).symm
  rw [← whole] at offset
  refine ⟨_,⟨k,above',left',right',[]⟩,?_,stands',?_,lands⟩
  · have replaced : Buffer.replace entry (Text.size (above' ++ left')) =
        Buffer.parts (above' ++ left') (right' ++ []) := by
      conv => lhs; rw [parts]
      exact replacePlace _ _
    simp only [lineUp,stands.point,start,column,bind,Option.bind,Text.size,if_true,previous,span,offset,
      replaced]
  · have lines := rowCount row
    simp only [Place.index,pageTurn there,lines,List.count_nil]
    omega

theorem indexBelow (stands : Stands entries typed e p) :
    p.index entries typed + p.below.count '\n' + 1 +
        (((pages entries typed).drop (p.page + 1)).flatMap rows).length = (document entries typed).length := by
  have within := (indexPage stands).2
  have whole := rowsSplit (pages entries typed) (p.page + 1)
  rw [document]
  omega

theorem downWithin (stands : Stands entries typed e p) {rest : Text} (bottom : p.below = '\n' :: rest) :
    ∃ e' p', e.lineDown entries = some (.changed,e') ∧ Stands entries typed e' p' ∧
      p'.index entries typed = p.index entries typed + 1 ∧ Text.Lands (cells p.left) p'.left p'.right := by
  obtain ⟨k,above,left,right,below⟩ := p
  simp only at bottom
  subst bottom
  have stop := Text.rowStop stands.row
  have column := Text.rowColumn stands.row
  obtain ⟨above',below',row,whole,tail⟩ := Text.rowExists (above ++ (left ++ right) ++ ['\n']) rest
  have fresh : Text.openLine (above ++ (left ++ right) ++ ['\n']) = [] := by simp [Text.openLine]
  have text : e.buffer.text = above ++ (left ++ right) ++ ['\n'] ++ rest := by rw [stands.row.whole]; simp
  rw [fresh,List.append_nil] at whole
  rw [fresh,List.nil_append,← text,← whole] at row
  have span := Text.rowSpanStart row
  obtain ⟨left',right',offset,parts,lands,stands'⟩ := arrives (cells left) stands.page row stands.recalled
  refine ⟨_,⟨k,_,left',right',below'⟩,?_,stands',?_,lands⟩
  · have next : Text.size (above ++ (left ++ right)) + 1 = Text.size (above ++ (left ++ right) ++ ['\n']) := by
      rw [Text.sizeAppend _ ['\n']]; rfl
    have inside : ¬ Text.size (above ++ (left ++ right)) = Text.size e.buffer.text := by
      rw [text,Text.sizeAppend _ rest,← next]; omega
    simp only [lineDown,stands.point,stop,column,bind,Option.bind,if_neg inside,next,span,offset,
      moveToPlace e parts]
  · simp only [Place.index,List.count_append,Text.countNone (Text.rowLeft stands.row).1,
      Text.countNone (Text.rowLeft stands.row).2]
    rfl

theorem nextPage (stands : Stands entries typed e p) (page : p.page < entries.length) :
    ∃ t, (pages entries typed)[p.page + 1]? = some t ∧ e.recalled.next entries =
      (some t,if p.page + 1 = entries.length then {} else ⟨some (p.page + 1),some typed⟩) := by
  rw [stands.recalled,if_neg (Nat.ne_of_lt page)]
  by_cases last : p.page + 1 = entries.length
  · refine ⟨typed,by rw [last,pageTyped],?_⟩
    simp only [Recall.next,last,Nat.le_refl,if_true,Option.getD_some]
  · have inside : p.page + 1 < entries.length := by omega
    have entry := List.getElem?_eq_getElem inside
    refine ⟨entries[p.page + 1],by rw [pageEntry inside,entry],?_⟩
    simp only [Recall.next,if_neg last,if_neg (Nat.not_le_of_lt inside),entry]

theorem downTurn (stands : Stands entries typed e p) (bottom : p.below = []) (page : p.page < entries.length) :
    ∃ e' p', e.lineDown entries = some (.changed,e') ∧ Stands entries typed e' p' ∧
      p'.index entries typed = p.index entries typed + 1 ∧ Text.Lands (cells p.left) p'.left p'.right := by
  obtain ⟨entry,there,next⟩ := nextPage stands page
  obtain ⟨k,above,left,right,below⟩ := p
  simp only at bottom page
  subst bottom
  have stop := Text.rowStop stands.row
  have column := Text.rowColumn stands.row
  obtain ⟨above',below',row,whole,tail⟩ := Text.rowExists [] entry
  obtain rfl : above' = [] := (List.append_eq_nil_iff.mp whole.symm).1
  have fresh : Text.openLine [] = [] := rfl
  rw [fresh,List.nil_append] at row
  have span := Text.rowSpanStart row
  obtain ⟨left',right',offset,parts,lands,stands'⟩ := arrives (cells left) there row rfl
  refine ⟨_,⟨k + 1,[],left',right',below'⟩,?_,stands',?_,lands⟩
  · have last : Text.size (above ++ (left ++ right)) = Text.size e.buffer.text := by
      rw [stands.row.whole,List.append_nil]
    have replaced : Buffer.replace entry (Text.size ([] ++ left')) =
        Buffer.parts ([] ++ left') (right' ++ below') := by
      conv => lhs; rw [parts]
      exact replacePlace _ _
    simp only [Text.size,List.nil_append] at span offset replaced
    simp only [lineDown,stands.point,stop,column,bind,Option.bind,last,if_true,next,span,offset,replaced,
      List.nil_append]
  · have lines := rowCount stands.row
    simp only [Place.index,pageTurn stands.page,lines,List.count_nil]
    omega

theorem lastPage (stands : Stands entries typed e p) (page : p.page = entries.length) :
    e.recalled.next entries = (none,e.recalled) := by
  rw [stands.recalled,if_pos page]
  rfl

theorem upMoves (stands : Stands entries typed e p) : Moves entries typed e p .up := by
  have found : ∀ {e' : Editor} {p' : Place}, e.lineUp entries = some (.changed,e') →
      Stands entries typed e' p' → p'.index entries typed + 1 = p.index entries typed →
      Text.Lands (cells p.left) p'.left p'.right → Moves entries typed e p .up := by
    intro e' p' moved stands' above lands
    have inside : ¬ p.index entries typed = 0 := by omega
    simp only [Moves,neighbour,if_neg inside]
    exact ⟨e',p',moved,stands',by omega,lands⟩
  rcases stands.row.top with top | ⟨front,top⟩
  · cases page : p.page with
    | zero =>
      have first : p.index entries typed = 0 := by
        simp only [Place.index,page,top,List.take_zero,List.flatMap_nil,List.length_nil,List.count_nil]
      have start := Text.rowStart stands.row
      have column := Text.rowColumn stands.row
      rw [top] at start column
      simp only [Moves,neighbour,first,if_true,vertical]
      simp only [lineUp,stands.point,top,start,column,bind,Option.bind,Text.size,if_true,firstPage stands page]
    | succ k =>
      obtain ⟨e',p',moved,stands',above,lands⟩ := upTurn stands top page
      exact found moved stands' above lands
  · obtain ⟨e',p',moved,stands',above,lands⟩ := upWithin stands top
    exact found moved stands' above lands

theorem downMoves (stands : Stands entries typed e p) : Moves entries typed e p .down := by
  have total := indexBelow stands
  have found : ∀ {e' : Editor} {p' : Place}, e.lineDown entries = some (.changed,e') →
      Stands entries typed e' p' → p'.index entries typed = p.index entries typed + 1 →
      Text.Lands (cells p.left) p'.left p'.right → Moves entries typed e p .down := by
    intro e' p' moved stands' below lands
    have inside := (List.getElem?_eq_some_iff.mp (standsLine stands')).1
    simp only [Moves,neighbour]
    rw [if_pos (by omega)]
    exact ⟨e',p',moved,stands',below,lands⟩
  rcases stands.row.bottom with bottom | ⟨rest,bottom⟩
  · rcases Nat.lt_or_eq_of_le (standsPage stands) with page | page
    · obtain ⟨e',p',moved,stands',below,lands⟩ := downTurn stands bottom page
      exact found moved stands' below lands
    · have beyond : (pages entries typed).drop (p.page + 1) = [] := by
        rw [page,List.drop_eq_nil_iff]; simp [pages]
      rw [beyond,bottom,List.flatMap_nil,List.count_nil,List.length_nil] at total
      have last : ¬ p.index entries typed + 1 < (document entries typed).length := by omega
      have stop := Text.rowStop stands.row
      have column := Text.rowColumn stands.row
      have size : Text.size (p.above ++ (p.left ++ p.right)) = Text.size e.buffer.text := by
        rw [stands.row.whole,bottom,List.append_nil]
      simp only [Moves,neighbour,if_neg last,vertical]
      simp only [lineDown,stands.point,stop,column,bind,Option.bind,size,if_true,lastPage stands page]
  · obtain ⟨e',p',moved,stands',below,lands⟩ := downWithin stands bottom
    exact found moved stands' below lands

theorem standsMoves (stands : Stands entries typed e p) : ∀ move, Moves entries typed e p move
  | .up => upMoves stands
  | .down => downMoves stands

end

theorem indexEntries {entries : List Text} {typed : Text} {e : Editor} {p : Place}
    (stands : Stands entries typed e p) (page : p.page < entries.length) :
    p.index entries typed < (entries.flatMap rows).length := by
  have within := (indexPage stands).2
  have whole := rowsSplit entries (p.page + 1)
  rw [pagesTake page] at within
  omega

def walk (entries : List Text) (e : Editor) (moves : List Vertical) : Option Editor :=
  moves.foldlM (fun e move => (e.vertical entries move).map (·.2)) e

def wander (count i : Nat) (moves : List Vertical) : Nat :=
  moves.foldl (fun i move => (neighbour count i move).getD i) i

theorem walkStands {entries : List Text} {typed : Text} {e : Editor} {p : Place}
    (stands : Stands entries typed e p) (moves : List Vertical) :
    ∃ e' p', e.walk entries moves = some e' ∧ Stands entries typed e' p' ∧
      p'.index entries typed = wander (document entries typed).length (p.index entries typed) moves := by
  induction moves generalizing e p with
  | nil => exact ⟨e,p,rfl,stands,rfl⟩
  | cons move rest ih =>
    have moves := standsMoves stands move
    simp only [Moves] at moves
    cases target : neighbour (document entries typed).length (p.index entries typed) move with
    | none =>
      rw [target] at moves
      obtain ⟨e',p',walked,stands',index⟩ := ih stands
      refine ⟨e',p',?_,stands',?_⟩
      · rw [walk,List.foldlM_cons,moves]; exact walked
      · rw [wander,List.foldl_cons,target]; exact index
    | some i =>
      rw [target] at moves
      obtain ⟨e₁,p₁,moved,stands₁,index₁,_⟩ := moves
      obtain ⟨e',p',walked,stands',index⟩ := ih stands₁
      refine ⟨e',p',?_,stands',?_⟩
      · rw [walk,List.foldlM_cons,moved]; exact walked
      · rw [wander,List.foldl_cons,target]
        rw [index₁] at index
        exact index

/- Starts anywhere in the typed text, with nothing recalled. -/
theorem walkFollowsDocument (entries : List Text) (before after : Text) (moves : List Vertical) :
    ∃ e p, walk entries ⟨Buffer.parts before after,{}⟩ moves = some e ∧
      Stands entries (before ++ after) e p ∧
      (document entries (before ++ after))[p.index entries (before ++ after)]? = some (p.left ++ p.right) ∧
      p.index entries (before ++ after) = wander (document entries (before ++ after)).length
        ((entries.flatMap rows).length + before.count '\n') moves ∧
      ((entries.flatMap rows).length ≤ p.index entries (before ++ after) →
        e.buffer.text = before ++ after) ∧
      ∀ move, Moves entries (before ++ after) e p move := by
  obtain ⟨above,below,row,front,back⟩ := Text.rowExists before after
  have start : Stands entries (before ++ after) ⟨Buffer.parts before after,{}⟩
      ⟨entries.length,above,Text.openLine before,Text.restOfLine after,below⟩ :=
    ⟨pageTyped,row,congrArg Text.size front,(if_pos rfl).symm⟩
  obtain ⟨e,p,walked,stands,index⟩ := walkStands start moves
  have first : Place.index entries (before ++ after)
      ⟨entries.length,above,Text.openLine before,Text.restOfLine after,below⟩ =
      (entries.flatMap rows).length + before.count '\n' := by
    have lead : (pages entries (before ++ after)).take entries.length = entries := List.take_left
    have count := congrArg (List.count '\n') front
    rw [List.count_append,Text.countNone (Text.openLineOne before)] at count
    rw [Place.index,lead]
    simp only
    omega
  refine ⟨e,p,walked,stands,standsLine stands,first ▸ index,?_,standsMoves stands⟩
  intro past
  rcases Nat.lt_or_eq_of_le (standsPage stands) with page | page
  · have inside := indexEntries stands page
    omega
  · exact standsTyped stands page

end ScriptConsole.Editor
