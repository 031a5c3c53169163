import ScriptConsole.Proofs.Edit.Typing
import ScriptConsole.Proofs.Edit.Walk

/-! An entry called back to the empty prompt. It takes one Up for each line of the newer entries and one
more, and the point comes to stand at the beginning of the entry's last line. Enter there hands the entry
over if it has one line or ends with a newline; any other has its last line broken off, and is handed over
from its end. -/
namespace ScriptConsole.Editor
open Buffer (parts partsText partsPoint partsEnd partsInside)
open Text (rows)
variable {κ : Type} {s : Surroundings κ}

/-! ## Up from the empty prompt -/

def ups (n : Nat) : List Key := List.replicate n { code := .up }

theorem landsFirst {left right : Text} (lands : Text.Lands 0 left right) : left = [] :=
  Classical.byContradiction fun some =>
    Nat.not_lt_zero _ (lands.first [] List.nil_prefix fun none => some none.symm)

theorem upsClimb {e : Editor} {p : Place} (stands : Stands s.entries [] e p) (first : p.left = []) (k : κ)
    {n : Nat} (room : n ≤ p.index s.entries []) : ∃ e' p',
      pressAll s (ups n) e k = some (List.replicate n .changed,e',k) ∧ Stands s.entries [] e' p' ∧
        p'.left = [] ∧ p'.index s.entries [] + n = p.index s.entries [] := by
  induction n generalizing e p with
  | zero => exact ⟨e,p,rfl,stands,first,rfl⟩
  | succ n ih =>
    have moves := upMoves stands
    have inside : ¬ p.index s.entries [] = 0 := by omega
    simp only [Moves,neighbour,if_neg inside,first] at moves
    obtain ⟨e₁,p₁,moved,stands₁,index,lands⟩ := moves
    obtain ⟨e',p',climbed,stands',first',index'⟩ := ih stands₁ (landsFirst lands) (by omega)
    have pressed : e.press s k { code := .up } = some (.changed,e₁,k) := by
      show (e.lineUp s.entries).map _ = _
      rw [show e.lineUp s.entries = _ from moved]
      rfl
    refine ⟨e',p',?_,stands',first',by omega⟩
    rw [ups,List.replicate_succ,pressAllStep pressed,show pressAll s (List.replicate n _) e₁ k = _ from climbed]
    rfl

def distance (entries : List Text) (i : Nat) : Nat := ((entries.drop (i + 1)).flatMap rows).length + 1

theorem rowsBefore {entries : List Text} {i : Nat} (inside : i < entries.length) :
    (((pages entries []).take (i + 1)).flatMap rows).length + distance entries i =
      (entries.flatMap rows).length + 1 := by
  have whole := rowsSplit entries (i + 1)
  rw [pagesTake inside,distance]
  omega

theorem rowsMonotone (l : List Text) {i j : Nat} (below : i ≤ j) :
    ((l.take i).flatMap rows).length ≤ ((l.take j).flatMap rows).length := by
  have front : (l.take j).take i = l.take i := by rw [List.take_take,Nat.min_eq_left below]
  have whole := rowsSplit (l.take j) i
  rw [front] at whole
  omega

theorem climbedPage {entries : List Text} {e : Editor} {p : Place} (stands : Stands entries [] e p) {i n : Nat}
    {entry : Text} (found : entries[i]? = some entry)
    (climbed : p.index entries [] + n = (entries.flatMap rows).length) :
    (p.page = i → distance entries i ≤ n) ∧ (n = distance entries i → p.page = i ∧ p.below = []) := by
  have inside := (List.getElem?_eq_some_iff.mp found).1
  have before := rowsBefore inside
  obtain ⟨behind,within⟩ := indexPage stands
  refine ⟨fun page => by rw [page] at within; omega,fun far => ?_⟩
  have page : p.page = i := by
    rcases Nat.lt_trichotomy p.page i with lower | same | higher
    · have turned := pageTurn ((pageEntry inside).trans found : (pages entries [])[i]? = some entry)
      have apart := rowsMonotone (pages entries []) (show p.page + 1 ≤ i from lower)
      have lines := Text.rowsLength entry
      omega
    · exact same
    · have apart := rowsMonotone (pages entries []) (show i + 1 ≤ p.page from higher)
      omega
  rw [page] at within
  rcases stands.row.bottom with none | ⟨rest,more⟩
  · exact ⟨page,none⟩
  · rw [more,List.count_cons_self] at within
    omega

theorem emptyStands (entries : List Text) : Stands entries [] {} ⟨entries.length,[],[],[],[]⟩ :=
  ⟨pageTyped,⟨rfl,nofun,.inl rfl,.inl rfl⟩,rfl,(if_pos rfl).symm⟩

theorem emptyIndex (entries : List Text) :
    Place.index entries [] ⟨entries.length,[],[],[],[]⟩ = (entries.flatMap rows).length := by
  have lead : (pages entries []).take entries.length = entries := List.take_left
  rw [Place.index,lead]
  rfl

/-! ## Enter in a recalled entry -/

structure Recalls (s : Surroundings κ) (k : κ) (i : Nat) (entry above line : Text) : Prop where
  last : Text.Row entry above line []
  shows : pressAll s (ups (distance s.entries i)) {} k = some
    (List.replicate (distance s.entries i) .changed,⟨parts above line,⟨some i,some []⟩⟩,k)
  first : ∀ n < distance s.entries i, ∃ e, pressAll s (ups n) {} k = some (List.replicate n .changed,e,k) ∧
    e.recalled.index ≠ some i

theorem upsRecall (s : Surroundings κ) (k : κ) {i : Nat} {entry : Text} (found : s.entries[i]? = some entry) :
    ∃ above line, Recalls s k i entry above line := by
  have inside := (List.getElem?_eq_some_iff.mp found).1
  have before := rowsBefore inside
  have positive : 0 < (((pages s.entries []).take (i + 1)).flatMap rows).length := by
    have turned := pageTurn ((pageEntry inside).trans found : (pages s.entries [])[i]? = some entry)
    have lines := Text.rowsLength entry
    omega
  have start := emptyIndex s.entries
  obtain ⟨e,p,climbed,stands,left,index⟩ := upsClimb (emptyStands s.entries) rfl k
    (n := distance s.entries i) (by omega)
  obtain ⟨page,below⟩ := (climbedPage stands found (index.trans start)).2 rfl
  have text : e.buffer.text = entry := by
    have here := stands.page
    rw [page,pageEntry inside,found] at here
    exact (Option.some.inj here).symm
  have row := stands.row
  rw [text,left,below,List.nil_append] at row
  refine ⟨p.above,p.right,row,?_,fun n fewer => ?_⟩
  · have whole : e = ⟨parts p.above p.right,⟨some i,some []⟩⟩ := by
      have point := stands.point
      have recalled := stands.recalled
      rw [left,List.append_nil] at point
      rw [page,if_neg (Nat.ne_of_lt inside)] at recalled
      calc e = ⟨⟨e.buffer.text,e.buffer.point⟩,e.recalled⟩ := rfl
        _ = ⟨parts p.above p.right,⟨some i,some []⟩⟩ := by
          rw [text,point,recalled,row.whole,List.append_nil,parts]
    rw [climbed,whole]
  · obtain ⟨e,p,climbed,stands,_,index⟩ := upsClimb (emptyStands s.entries) rfl k (n := n) (by omega)
    refine ⟨e,climbed,fun shown => ?_⟩
    have far := (climbedPage stands found (index.trans start)).1
    rw [stands.recalled] at shown
    split at shown
    · cases shown
    · cases shown
      exact absurd (far rfl) (by omega)

theorem enterAccepted {t : Text} (accepted : s.language.check (t ++ ['\n']) = .ok ()) (r : Recall) :
    enter ⟨parts t [],r⟩ s = some (.submit t,{}) := by
  have text : (parts t []).text = t := List.append_nil t
  simp only [enter,partsEnd,text,accepted,submit]
  split
  · contradiction
  · split <;> rfl

theorem endReaches {line : Text} (one : '\n' ∉ line) (above : Text) (r : Recall) :
    lineEnd ⟨parts above line,r⟩ =
      some (if line = [] then .ignored else .changed,⟨parts (above ++ line) [],r⟩) := by
  have whole : Text.restOfLine line = line := by
    have row : Text.Row line [] ([] ++ line) [] := ⟨(List.append_nil _).symm,one,.inl rfl,.inl rfl⟩
    exact (congrArg Text.restOfLine (List.append_nil line)).symm.trans (Text.rowRestOfLine row)
  have reached := moveToPlace ⟨parts above line,r⟩ (List.append_nil (above ++ line)).symm
  rw [lineEnd,partsText,partsPoint,Text.lineEndAt,whole,← Text.sizeAppend,Option.map_some,Option.some.injEq]
  refine Prod.ext ?_ reached
  by_cases none : line = []
  · subst none
    have here : Text.size above = (parts above []).point := rfl
    rw [if_pos rfl,List.append_nil,moveTo,if_pos here]
  · have more := Text.sizePositive none
    have further : Text.size (above ++ line) ≠ (parts above line).point := by
      rw [partsPoint,Text.sizeAppend]
      omega
    rw [if_neg none,moveTo,if_neg further]

section
variable {entry above line : Text} (last : Text.Row entry above line [])
include last

theorem enterAlone (sole : above = []) (content : line ≠ []) (r : Recall) :
    enter ⟨parts above line,r⟩ s = some (.submit entry,{}) := by
  have single : line.contains '\n' = false := by
    rw [List.contains_eq_mem,decide_eq_false last.one]
  have whole := last.whole
  rw [sole,List.append_nil] at whole
  subst sole whole
  simp only [enter,partsInside [] content,partsText,List.nil_append,single]
  rfl

theorem enterBreaks (longer : above ≠ []) (content : line ≠ []) (r : Recall) :
    enter ⟨parts above line,r⟩ s = some (.changed,⟨parts (above ++ ['\n']) line,r⟩) := by
  obtain ⟨front,ended⟩ := last.top.resolve_left longer
  have several : (above ++ line).contains '\n' = true := by
    rw [ended]
    simp
  have opened : Text.openLine above = [] := by rw [ended]; simp [Text.openLine]
  have broken : Text.broken above = above ++ ['\n'] := by simp [Text.broken,opened,spaces]
  simp only [enter,partsInside above content,partsText,several,breakLineParts,broken]
  rfl

end

/- From where an entry comes to be shown, Enter hands it over if it has one line or ends with a newline.
Any other has its last line broken off; after End Enter hands over every one. -/
theorem recalledSubmits (s : Surroundings κ) (k : κ) {i : Nat} {entry : Text}
    (found : s.entries[i]? = some entry) (accepted : s.language.check (entry ++ ['\n']) = .ok ()) :
    ∃ above line, Recalls s k i entry above line ∧
      (above = [] ∨ line = [] → pressAll s (ups (distance s.entries i) ++ [{ code := .enter }]) {} k =
        some (List.replicate (distance s.entries i) .changed ++ [.submit entry],{},k)) ∧
      (above ≠ [] → line ≠ [] → pressAll s (ups (distance s.entries i) ++ [{ code := .enter }]) {} k =
        some (List.replicate (distance s.entries i) .changed ++ [.changed],
          ⟨parts (above ++ ['\n']) line,⟨some i,some []⟩⟩,k)) ∧
      pressAll s (ups (distance s.entries i) ++ [{ code := .lineEnd },{ code := .enter }]) {} k =
        some (List.replicate (distance s.entries i) .changed ++
          [if line = [] then .ignored else .changed,.submit entry],{},k) := by
  obtain ⟨above,line,recalls⟩ := upsRecall s k found
  have whole := recalls.last.whole
  rw [List.append_nil] at whole
  have enters {e e' : Editor} {o : Outcome} (entered : e.enter s = some (o,e')) :
      pressAll s [{ code := .enter }] e k = some ([o],e',k) := by
    rw [pressAllStep (pressEnters rfl entered k)]
    rfl
  refine ⟨above,line,recalls,fun sole => ?_,fun longer content => ?_,?_⟩
  · have submits : enter ⟨parts above line,⟨some i,some []⟩⟩ s = some (.submit entry,{}) := by
      by_cases content : line = []
      · rw [content,List.append_nil] at whole
        rw [content,← whole]
        exact enterAccepted accepted _
      · exact enterAlone recalls.last (sole.resolve_right content) content _
    rw [pressAllAppend recalls.shows,enters submits]
    rfl
  · rw [pressAllAppend recalls.shows,enters (enterBreaks recalls.last longer content _)]
    rfl
  · have ends : press ⟨parts above line,⟨some i,some []⟩⟩ s k { code := .lineEnd } =
        some (if line = [] then .ignored else .changed,⟨parts entry [],⟨some i,some []⟩⟩,k) := by
      simp only [press,endReaches recalls.last.one above,whole]
      rfl
    rw [pressAllAppend recalls.shows,pressAllStep ends,enters (enterAccepted accepted _)]
    rfl

def twoEntries : Surroundings Unit :=
  { quietSurroundings (.constant []) with entries := [['a','\n','b'],['c']] }

theorem recalledSubmitsOlder : twoEntries.entries[0]? = some ['a','\n','b'] ∧
    twoEntries.language.check (['a','\n','b'] ++ ['\n']) = .ok () ∧ ∃ above line,
      Recalls twoEntries () 0 ['a','\n','b'] above line ∧
      pressAll twoEntries (ups 2 ++ [{ code := .lineEnd },{ code := .enter }]) {} () =
        some (List.replicate 2 .changed ++
          [if line = [] then .ignored else .changed,.submit ['a','\n','b']],{},()) := by
  have found : twoEntries.entries[0]? = some ['a','\n','b'] := rfl
  have accepted : twoEntries.language.check (['a','\n','b'] ++ ['\n']) = .ok () := rfl
  obtain ⟨above,line,recalls,_,_,ended⟩ := recalledSubmits twoEntries () found accepted
  exact ⟨found,accepted,above,line,recalls,ended⟩

theorem recalledLineBroken : ¬ ∀ s : Surroundings Unit,
    (∀ t ∈ s.entries, t ≠ [] ∧ s.language.check (t ++ ['\n']) = .ok ()) →
      ∀ i entry, s.entries[i]? = some entry → ∃ e,
        pressAll s (ups (distance s.entries i) ++ [{ code := .enter }]) {} () =
          some (List.replicate (distance s.entries i) .changed ++ [.submit entry],e,()) := by
  intro always
  have sound : ∀ t ∈ twoEntries.entries, t ≠ [] ∧ twoEntries.language.check (t ++ ['\n']) = .ok () := by
    intro t inside
    rcases List.mem_cons.mp inside with rfl | last
    · exact ⟨nofun,rfl⟩
    · rw [List.mem_singleton.mp last]
      exact ⟨nofun,rfl⟩
  obtain ⟨e,handed⟩ := always twoEntries sound 0 ['a','\n','b'] rfl
  have broken : (pressAll twoEntries (ups (distance twoEntries.entries 0) ++ [{ code := .enter }]) {} ()).map
      (·.1) = some [.changed,.changed,.changed] := by decide
  have whole : List.replicate (distance twoEntries.entries 0) .changed ++ [.submit ['a','\n','b']] ≠
      [Outcome.changed,.changed,.changed] := by decide
  rw [handed] at broken
  exact whole (Option.some.inj broken)

end ScriptConsole.Editor
