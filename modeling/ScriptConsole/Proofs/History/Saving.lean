import ScriptConsole.Proofs.History.Reloading

/-! An on-exit history from its load to its end, which is one more close. The first close of all writes
the file from the entries in memory, and no later one writes again: what is appended after it is in
memory only. -/
namespace ScriptConsole.History

inductive Act
  | append (entry : Text)
  | close
  deriving DecidableEq, Repr

def act (s : History × Files) : Act → Except IoError (History × Files)
  | .append entry => (s.1.append entry s.2).2.map ((s.1.append entry s.2).1,·)
  | .close => (s.1.close s.2).2.map ((s.1.close s.2).1,·)

def Act.entry? : Act → Option Text
  | .append entry => if entry = [] then none else some entry
  | .close => none

def given (acts : List Act) : List Text := acts.filterMap Act.entry?

def early (acts : List Act) : List Act := acts.takeWhile (· != .close)

def late (acts : List Act) : List Act := acts.dropWhile (· != .close)

theorem givenParts (acts : List Act) : given (early acts) ++ given (late acts) = given acts := by
  rw [given,given,← List.filterMap_append,early,late,List.takeWhile_append_dropWhile,given]

theorem givenMember {acts : List Act} {e : Text} (inside : e ∈ given acts) : e ≠ [] ∧ .append e ∈ acts := by
  obtain ⟨a,there,same⟩ := List.mem_filterMap.mp inside
  cases a with
  | close => cases same
  | append entry =>
    rw [Act.entry?] at same
    split at same <;> cases same
    exact ⟨by assumption,there⟩

structure Remembers (path : Path) (n : Nat) (l : List Text) (h : History) : Prop where
  path : h.path = some path
  onExit : h.persistence = .onExit
  limit : h.maxEntries = n
  entries : h.entries = lastN n l

theorem appendRemembers {path : Path} {n : Nat} {l : List Text} {h : History} (positive : 1 ≤ n)
    (remembers : Remembers path n l h) (entry : Text) (files : Files) :
    ∃ h', act (h,files) (.append entry) = .ok (h',files) ∧ Remembers path n (l ++ given [.append entry]) h' ∧
      h'.closed = h.closed ∧ h'.added = h.added + (given [.append entry]).length := by
  by_cases empty : entry = []
  · subst empty
    exact ⟨h,rfl,by rw [show given [.append []] = [] from rfl,List.append_nil]; exact remembers,rfl,rfl⟩
  · have content : ¬ entry.isEmpty := by rwa [List.isEmpty_iff]
    have one : given [.append entry] = [entry] := by
      rw [given,List.filterMap_cons_some (b := entry) (by rw [Act.entry?,if_neg empty]),List.filterMap_nil]
    refine ⟨trim { h with entries := h.entries ++ [entry], added := h.added + 1 },?_,?_,rfl,by rw [one]; rfl⟩
    · simp only [act,append,if_neg content,remembers.onExit]
      rfl
    · refine ⟨remembers.path,remembers.onExit,remembers.limit,?_⟩
      rw [one,trim,remembers.limit,remembers.entries]
      exact lastNAppend positive l entry

theorem quietRun {path : Path} {n : Nat} {l : List Text} {h : History} (positive : 1 ≤ n)
    (remembers : Remembers path n l h) (files : Files) (acts : List Act)
    (quiet : h.closed = true ∨ .close ∉ acts) :
    ∃ h', acts.foldlM act (h,files) = .ok (h',files) ∧ Remembers path n (l ++ given acts) h' ∧
      h'.closed = h.closed ∧ h'.added = h.added + (given acts).length := by
  induction acts generalizing l h with
  | nil => exact ⟨h,rfl,by rw [show given [] = [] from rfl,List.append_nil]; exact remembers,rfl,rfl⟩
  | cons a rest ih =>
    have whole : given (a :: rest) = given [a] ++ given rest := List.filterMap_append (l := [a])
    have first : ∃ h', act (h,files) a = .ok (h',files) ∧ Remembers path n (l ++ given [a]) h' ∧
        h'.closed = h.closed ∧ h'.added = h.added + (given [a]).length := by
      cases a with
      | append entry => exact appendRemembers positive remembers entry files
      | close =>
        have closed : h.closed = true := quiet.resolve_right fun none => none List.mem_cons_self
        refine ⟨h,by simp only [act,close,if_pos closed]; rfl,?_,rfl,rfl⟩
        rw [show given [.close] = [] from rfl,List.append_nil]
        exact remembers
    obtain ⟨h₁,acted,remembers₁,closed₁,added₁⟩ := first
    obtain ⟨h₂,ran,remembers₂,closed₂,added₂⟩ := ih remembers₁ <|
      quiet.imp (fun closed => by rw [closed₁,closed]) fun none later => none (List.mem_cons_of_mem _ later)
    refine ⟨h₂,by rw [List.foldlM_cons,acted]; exact ran,?_,by rw [closed₂,closed₁],?_⟩
    · rw [whole,← List.append_assoc]
      exact remembers₂
    · rw [added₂,added₁,whole,List.length_append,Nat.add_assoc]

structure Saved (path : Path) (entries : List Text) (n : Nat) (files : Files) : Prop where
  stands : ∃ l, recorded files path = .ok l ∧ lastN n l = entries
  ready : ∃ old, files.openForWriting path = .ok old

theorem closeSaves {path : Path} {n : Nat} {l more : List Text} {h : History} {files : Files}
    (remembers : Remembers path n (l ++ more) h) (isOpen : h.closed = false) (added : h.added = more.length)
    (read : recorded files path = .ok l) (ready : ∃ old, files.openForWriting path = .ok old)
    (sturdy : ∀ e ∈ l ++ more, e ≠ [] ∧ Sturdy e) :
    ∃ files', act (h,files) .close = .ok ({ h with closed := true },files') ∧ Saved path h.entries n files' := by
  have stillOpen : ¬ h.closed = true := by rw [isOpen]; exact Bool.false_ne_true
  by_cases new : 0 < h.added
  · obtain ⟨old,opened⟩ := ready
    obtain ⟨files',written,holds⟩ := Files.writeHolds opened (bytesOf h.entries)
    have back : recorded files' path = .ok h.entries := by
      rw [recorded,Files.holdsRead holds]
      refine congrArg Except.ok (entriesRead fun e inside => sturdy e ?_)
      rw [remembers.entries] at inside
      exact List.mem_of_mem_drop inside
    have few : lastN n h.entries = h.entries := by rw [remembers.entries,lastNAgain]
    refine ⟨files',?_,⟨h.entries,back,few⟩,_,Files.holdsOpened holds⟩
    simp only [act,close,if_neg stillOpen,remembers.onExit,if_pos new,rewrite,remembers.path,written]
    rfl
  · have none : more = [] := List.length_eq_zero_iff.mp (by omega)
    refine ⟨files,?_,⟨l,read,by rw [remembers.entries,none,List.append_nil]⟩,ready⟩
    simp only [act,close,if_neg stillOpen,remembers.onExit,if_neg new]
    rfl

theorem loadRemembers {files : Files} {path : Path} {l : List Text} (read : recorded files path = .ok l)
    (maxEntries : Nat) : ∃ h, load files path .onExit maxEntries = .ok (h,files) ∧
      Remembers path (max maxEntries 1) l h ∧ h.closed = false ∧ h.added = 0 := by
  refine ⟨⟨some path,lastN (max maxEntries 1) l,.onExit,max maxEntries 1,0,false⟩,?_,⟨rfl,rfl,rfl,rfl⟩,rfl,rfl⟩
  unfold recorded at read
  unfold load
  cases there : files.read path with
  | ok content =>
    rw [there] at read
    cases read
    rfl
  | error e =>
    rw [there] at read
    cases e <;> cases read
    rfl

theorem loadSaved {path : Path} {maxEntries : Nat} {entries : List Text} {files : Files}
    (saved : Saved path entries (max maxEntries 1) files) (persistence : Persistence) :
    ∃ h files', load files path persistence maxEntries = .ok (h,files') ∧ h.entries = entries := by
  obtain ⟨l,read,rfl⟩ := saved.stands
  cases persistence with
  | incremental =>
    obtain ⟨old,opened⟩ := saved.ready
    obtain ⟨files',written,_⟩ := Files.writeHolds opened (bytesOf (lastN (max maxEntries 1) l))
    refine ⟨⟨some path,lastN (max maxEntries 1) l,.incremental,max maxEntries 1,0,false⟩,files',?_,rfl⟩
    rw [loadRecorded,read]
    simp only [bind,Except.bind,pure,Except.pure,written]
  | onExit =>
    obtain ⟨h,loaded,remembers,_,_⟩ := loadRemembers read maxEntries
    exact ⟨h,files,loaded,remembers.entries⟩

theorem lastNGrown {n : Nat} {a : List Text} (few : a.length ≤ n) (b : List Text) :
    lastN n (a ++ b) = a ↔ b = [] ∨ a.length = n ∧ a <:+ a ++ b := by
  constructor
  · intro same
    by_cases none : b = []
    · exact .inl none
    · have more := List.length_pos_iff.mpr none
      have lengths := congrArg List.length same
      simp only [lastN,List.length_drop,List.length_append] at lengths
      refine .inr ⟨by omega,?_⟩
      have suffix : lastN n (a ++ b) <:+ a ++ b := List.drop_suffix _ _
      rwa [same] at suffix
  · rintro (rfl | ⟨full,suffix⟩)
    · rw [List.append_nil,lastNWhole few]
    · rw [lastN,← full]
      exact (List.suffix_iff_eq_drop.mp suffix).symm

theorem lastNOver {n : Nat} (positive : 1 ≤ n) (l more : List Text) :
    lastN n (lastN n l ++ more) = lastN n (l ++ more) := by
  induction more generalizing l with
  | nil => rw [List.append_nil,List.append_nil,lastNAgain]
  | cons e rest ih =>
    rw [List.append_cons,← ih,lastNAppend positive,ih,← List.append_cons]

theorem earlyLate (acts : List Act) :
    .close ∉ early acts ∧ acts = early acts ++ late acts ∧ (late acts = [] ∨ ∃ rest, late acts = .close :: rest) := by
  refine ⟨fun inside => ?_,List.takeWhile_append_dropWhile.symm,?_⟩
  · have other := List.mem_takeWhile_imp inside
    exact absurd other (by decide)
  · cases parts : late acts with
    | nil => exact .inl rfl
    | cons a rest =>
      have stops := List.head?_dropWhile_not (· != Act.close) acts
      rw [← late,parts] at stops
      exact .inr ⟨rest,by simpa using stops⟩

/- A run and the close at its end, from a history that is open: the entries in memory are those of all
acts, and those of the file are those of the early ones. -/
theorem runSaves {path : Path} {n : Nat} {l : List Text} {h : History} {files : Files} (positive : 1 ≤ n)
    (remembers : Remembers path n l h) (isOpen : h.closed = false) (none : h.added = 0)
    (read : recorded files path = .ok l) (ready : ∃ old, files.openForWriting path = .ok old) {acts : List Act}
    (sturdy : ∀ e ∈ l ++ given acts, e ≠ [] ∧ Sturdy e) :
    ∃ h' files' dropped files'', acts.foldlM act (h,files) = .ok (h',files') ∧
      act (h',files') .close = .ok (dropped,files'') ∧ h'.entries = lastN n (l ++ given acts) ∧
      Saved path (lastN n (l ++ given (early acts))) n files'' := by
  obtain ⟨noClose,parts,ends⟩ := earlyLate acts
  obtain ⟨h₁,ran,remembers₁,open₁,added₁⟩ := quietRun positive remembers files (early acts) (.inr noClose)
  have sturdyEarly : ∀ e ∈ l ++ given (early acts), e ≠ [] ∧ Sturdy e := by
    intro e inside
    refine sturdy e ?_
    rw [← givenParts,← List.append_assoc]
    exact List.mem_append_left _ inside
  obtain ⟨files₁,closed,saved⟩ := closeSaves remembers₁ (open₁.trans isOpen) (by rw [added₁,none,Nat.zero_add])
    read ready sturdyEarly
  rw [remembers₁.entries] at saved
  rcases ends with nothing | ⟨rest,close⟩
  · have whole : acts = early acts := by rw [nothing,List.append_nil] at parts; exact parts
    rw [← whole] at ran remembers₁
    exact ⟨h₁,files,_,files₁,ran,closed,remembers₁.entries,saved⟩
  · have remembers₂ : Remembers path n (l ++ given (early acts)) { h₁ with closed := true } :=
      ⟨remembers₁.path,remembers₁.onExit,remembers₁.limit,remembers₁.entries⟩
    obtain ⟨h₂,later,remembers₃,closed₂,_⟩ := quietRun positive remembers₂ files₁ rest (.inl rfl)
    refine ⟨h₂,files₁,h₂,files₁,?_,?_,?_,saved⟩
    · rw [parts,close,List.foldlM_append,ran]
      show (Act.close :: rest).foldlM act (h₁,files) = _
      rw [List.foldlM_cons,closed]
      exact later
    · simp only [act,History.close,if_pos closed₂]
      rfl
    · have all : given acts = given (early acts) ++ given rest := by
        rw [← givenParts,close]
        rfl
      rw [remembers₃.entries,all,List.append_assoc]

/- The file has what was in memory at the drop just where the acts from the first close on add nothing,
or fill a full list with what it already ends with. -/
theorem savedIff {files : Files} {path : Path} {l : List Text} (read : recorded files path = .ok l)
    (ready : ∃ old, files.openForWriting path = .ok old) (ends : ∀ e ∈ l, e.getLast? ≠ some '\r')
    {acts : List Act} (sturdy : ∀ entry, .append entry ∈ acts → Sturdy entry) (maxEntries : Nat)
    (persistence : Persistence) :
    ∃ opened h files' dropped files'' again files₃,
      load files path .onExit maxEntries = .ok (opened,files) ∧
      acts.foldlM act (opened,files) = .ok (h,files') ∧ act (h,files') .close = .ok (dropped,files'') ∧
      load files'' path persistence maxEntries = .ok (again,files₃) ∧
      h.entries = lastN (max maxEntries 1) (l ++ given acts) ∧
      again.entries = lastN (max maxEntries 1) (l ++ given (early acts)) ∧
      (again.entries = h.entries ↔ given (late acts) = [] ∨
        again.entries.length = max maxEntries 1 ∧ again.entries <:+ again.entries ++ given (late acts)) := by
  have positive : 1 ≤ max maxEntries 1 := Nat.le_max_right _ _
  have good : ∀ e ∈ l ++ given acts, e ≠ [] ∧ Sturdy e := by
    intro e inside
    rcases List.mem_append.mp inside with old | new
    · obtain ⟨content,unfolded⟩ := recordedPlain read e old
      exact ⟨content,unfolded,ends e old⟩
    · obtain ⟨content,there⟩ := givenMember new
      exact ⟨content,sturdy e there⟩
  obtain ⟨opened,loaded,remembers,isOpen,none⟩ := loadRemembers read maxEntries
  obtain ⟨h,files',dropped,files'',ran,closed,memory,saved⟩ := runSaves positive remembers isOpen none read ready good
  obtain ⟨again,files₃,reloaded,entries⟩ := loadSaved saved persistence
  refine ⟨opened,h,files',dropped,files'',again,files₃,loaded,ran,closed,reloaded,memory,entries,?_⟩
  have few : again.entries.length ≤ max maxEntries 1 := by rw [entries]; exact lastNLength _ _
  have grown : h.entries = lastN (max maxEntries 1) (again.entries ++ given (late acts)) := by
    rw [memory,entries,lastNOver positive,List.append_assoc,givenParts]
  rw [grown,eq_comm,lastNGrown few]

def desk : Files := ⟨[([['h']],.file (bytesOf ["x\ny".toList]) 3)]⟩

def sitting : List Act := [.append "if (a)\n".toList,.close,.append [],.append ['b'],.close]

theorem savedIffSitting : recorded desk [['h']] = .ok ["x\ny".toList] ∧
    (∃ old, desk.openForWriting [['h']] = .ok old) ∧ (∀ e ∈ ["x\ny".toList], e.getLast? ≠ some '\r') ∧
    (∀ entry, .append entry ∈ sitting → Sturdy entry) ∧
    ∃ opened h files' dropped files'' again files₃, load desk [['h']] .onExit 5 = .ok (opened,desk) ∧
      sitting.foldlM act (opened,desk) = .ok (h,files') ∧ act (h,files') .close = .ok (dropped,files'') ∧
      load files'' [['h']] .incremental 5 = .ok (again,files₃) ∧
      h.entries = ["x\ny".toList,"if (a)\n".toList,['b']] ∧
      again.entries = ["x\ny".toList,"if (a)\n".toList] := by
  have read : recorded desk [['h']] = .ok ["x\ny".toList] := by
    rw [recorded,show desk.read [['h']] = .ok (bytesOf ["x\ny".toList]) from rfl]
    refine congrArg Except.ok (entriesRead fun e inside => ?_)
    rw [List.mem_singleton.mp inside]
    exact ⟨by decide,by decide,by decide⟩
  have ready : ∃ old, desk.openForWriting [['h']] = .ok old := ⟨_,rfl⟩
  have ends : ∀ e ∈ ["x\ny".toList], e.getLast? ≠ some '\r' := by decide
  have sturdy : ∀ entry, .append entry ∈ sitting → Sturdy entry := by
    intro entry inside
    simp only [sitting,List.mem_cons,List.not_mem_nil,Act.append.injEq,reduceCtorEq,false_or,or_false] at inside
    rcases inside with rfl | rfl | rfl <;> exact ⟨by decide,by decide⟩
  obtain ⟨opened,h,files',dropped,files'',again,files₃,loaded,ran,closed,reloaded,memory,entries,_⟩ :=
    savedIff read ready ends sturdy 5 .incremental
  exact ⟨read,ready,ends,sturdy,opened,h,files',dropped,files'',again,files₃,loaded,ran,closed,reloaded,memory,
    entries⟩

theorem lateEntryLost : ∃ opened h files' dropped files'' again files₃,
    load {} [['h']] .onExit 5 = .ok (opened,{}) ∧
    [.append ['a'],.close,.append ['b']].foldlM act (opened,{}) = .ok (h,files') ∧
    act (h,files') .close = .ok (dropped,files'') ∧ load files'' [['h']] .onExit 5 = .ok (again,files₃) ∧
    h.entries = [['a'],['b']] ∧ again.entries = [['a']] := by
  have read : recorded {} [['h']] = .ok [] := rfl
  obtain ⟨opened,loaded,remembers,isOpen,none⟩ := loadRemembers read 5
  have sturdy : ∀ e ∈ [] ++ given [.append ['a'],.close,.append ['b']], e ≠ [] ∧ Sturdy e := by
    intro e inside
    rcases List.mem_cons.mp inside with rfl | second
    · exact ⟨by decide,by decide,by decide⟩
    · rw [List.mem_singleton.mp second]
      exact ⟨by decide,by decide,by decide⟩
  obtain ⟨h,files',dropped,files'',ran,closed,memory,saved⟩ :=
    runSaves (by decide) remembers isOpen none read ⟨[],rfl⟩ sturdy
  obtain ⟨again,files₃,reloaded,entries⟩ := loadSaved saved .onExit
  exact ⟨opened,h,files',dropped,files'',again,files₃,loaded,ran,closed,reloaded,memory,entries⟩

end ScriptConsole.History
