import ScriptConsole.History.Basic

/-! The limit of a history. However it is made, a history has room for an entry and holds no more than
its limit; what is appended pushes the oldest entries out. -/
namespace ScriptConsole.History

theorem lastNLength {α : Type} (n : Nat) (l : List α) : (lastN n l).length ≤ n := by
  rw [lastN,List.length_drop]
  omega

theorem lastNWhole {α : Type} {n : Nat} {l : List α} (few : l.length ≤ n) : lastN n l = l := by
  rw [lastN,Nat.sub_eq_zero_of_le few,List.drop_zero]

theorem lastNAgain {α : Type} (n : Nat) (l : List α) : lastN n (lastN n l) = lastN n l := by
  simp only [lastN,List.drop_drop,List.length_drop]
  congr 1
  omega

theorem lastNAppend {α : Type} {n : Nat} (positive : 1 ≤ n) (l : List α) (x : α) :
    lastN n (lastN n l ++ [x]) = lastN n (l ++ [x]) := by
  simp only [lastN,List.length_append,List.length_drop,List.length_singleton]
  rw [List.drop_append_of_le_length (by rw [List.length_drop]; omega),
    List.drop_append_of_le_length (by omega),List.drop_drop]
  congr 2
  omega

theorem lastNSuffix {α : Type} (n : Nat) (l : List α) :
    ∃ lost, l = lost ++ lastN n l ∧ (lost = [] ∨ n ≤ (lastN n l).length) := by
  refine ⟨l.take (l.length - n),(List.take_append_drop _ l).symm,?_⟩
  by_cases short : l.length ≤ n
  · exact .inl (by rw [Nat.sub_eq_zero_of_le short,List.take_zero])
  · exact .inr (by rw [lastN,List.length_drop]; omega)

structure Limited (h : History) : Prop where
  positive : 1 ≤ h.maxEntries
  within : h.entries.length ≤ h.maxEntries

theorem inMemoryLimited (maxEntries : Nat) : (inMemory maxEntries).Limited :=
  ⟨Nat.le_max_right maxEntries 1,Nat.zero_le _⟩

theorem boundOk {ε α β : Type} {x : Except ε α} {f : α → Except ε β} {b : β} (ok : x >>= f = .ok b) :
    ∃ a, x = .ok a ∧ f a = .ok b := by
  cases x with
  | error e => cases ok
  | ok a => exact ⟨a,rfl,ok⟩

theorem loadLimited {files files' : Files} {path : Path} {persistence : Persistence} {maxEntries : Nat}
    {h : History} (loaded : load files path persistence maxEntries = .ok (h,files')) : h.Limited := by
  have made (entries : List Text) :
      (trim ⟨some path,entries,persistence,max maxEntries 1,0,false⟩).Limited :=
    ⟨Nat.le_max_right maxEntries 1,lastNLength _ entries⟩
  unfold load at loaded
  dsimp only at loaded
  split at loaded <;> obtain ⟨entries,read,ended⟩ := boundOk loaded
  case h_3 => cases read
  all_goals
    cases persistence with
    | incremental =>
      obtain ⟨_,_,last⟩ := boundOk ended
      cases last
      exact made entries
    | onExit =>
      cases ended
      exact made entries

theorem appendEntries {h : History} {entry : Text} (some : entry ≠ []) (files : Files) :
    (h.append entry files).1.entries = lastN h.maxEntries (h.entries ++ [entry]) ∧
      (h.append entry files).1.maxEntries = h.maxEntries := by
  have given : ¬ entry.isEmpty := by rwa [List.isEmpty_iff]
  simp only [append,if_neg given]
  split <;> exact ⟨rfl,rfl⟩

theorem appendLimited {h : History} (limited : h.Limited) (entry : Text) (files : Files) :
    (h.append entry files).1.Limited := by
  by_cases empty : entry = []
  · subst empty
    exact limited
  · obtain ⟨entries,limit⟩ := appendEntries (h := h) empty files
    exact ⟨by rw [limit]; exact limited.positive,by rw [entries,limit]; exact lastNLength _ _⟩

theorem closeLimited {h : History} (limited : h.Limited) (files : Files) : (h.close files).1.Limited := by
  unfold close
  split
  · exact limited
  · dsimp only
    split <;> exact ⟨limited.positive,limited.within⟩

end ScriptConsole.History
