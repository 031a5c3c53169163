import ScriptConsole.Proofs.History.Limits
import ScriptConsole.Proofs.History.Records
import ScriptConsole.Proofs.System.Files

/-! Incremental sessions that share one history file. The file stands for one list of entries, at whose
end every session appends and which every load cuts to the limit; what a session has in memory is its
own view of that list. -/
namespace ScriptConsole.History

inductive Call
  | load
  | append (session : Nat) (entry : Text)
  deriving DecidableEq, Repr

structure Desk where
  sessions : List History
  files : Files
  deriving DecidableEq, Repr

def Desk.call (path : Path) (maxEntries : Nat) (desk : Desk) : Call → Except IoError Desk
  | .load =>
      (load desk.files path .incremental maxEntries).map fun (history,files) =>
        ⟨desk.sessions ++ [history],files⟩
  | .append i entry =>
      match desk.sessions[i]? with
      | none => .ok desk
      | some history =>
          (history.append entry desk.files).2.map fun files =>
            ⟨desk.sessions.set i (history.append entry desk.files).1,files⟩

def shared (maxEntries : Nat) (l : List Text) : Call → List Text
  | .load => lastN maxEntries l
  | .append _ entry => if entry = [] then l else l ++ [entry]

def loads (calls : List Call) : Nat := calls.count .load

def Call.entry? : Call → Option Text
  | .load => none
  | .append _ entry => if entry = [] then none else some entry

def Known : Nat → List Call → Prop
  | _,[] => True
  | n,.load :: rest => Known (n + 1) rest
  | n,.append i _ :: rest => i < n ∧ Known n rest

def Call.Spares (session : Nat) : Call → Prop
  | .load => True
  | .append i _ => i = session

def Viewed (maxEntries : Nat) (desk : Desk) (l : List Text) (session : Nat) : Prop :=
  ∃ history, desk.sessions[session]? = some history ∧ history.entries = lastN maxEntries l

def recorded (files : Files) (path : Path) : Except IoError (List Text) :=
  match files.read path with
  | .ok content => .ok (entriesOf content)
  | .error .notFound => .ok []
  | .error e => .error e

def Fresh (files : Files) (path : Path) : Prop :=
  files.read path = .error .notFound ∧ ∃ old, files.openForWriting path = .ok old

theorem sharedSuffix (m : Nat) (calls : List Call) :
    ∃ lost, calls.filterMap Call.entry? = lost ++ calls.foldl (shared m) [] ∧
      (lost = [] ∨ m ≤ (calls.foldl (shared m) []).length) := by
  suffices step : ∀ l seen : List Text, (∃ lost, seen = lost ++ l ∧ (lost = [] ∨ m ≤ l.length)) →
      ∃ lost, seen ++ calls.filterMap Call.entry? = lost ++ calls.foldl (shared m) l ∧
        (lost = [] ∨ m ≤ (calls.foldl (shared m) l).length) from
    step [] [] ⟨[],rfl,.inl rfl⟩
  induction calls with
  | nil => intro l seen before; simpa using before
  | cons call rest ih =>
    intro l seen ⟨lost,whole,full⟩
    cases call with
    | load =>
      obtain ⟨cut,parts,enough⟩ := lastNSuffix m l
      refine ih (lastN m l) seen ⟨lost ++ cut,by rw [whole,List.append_assoc,← parts],?_⟩
      rcases enough with rfl | enough
      · rw [List.append_nil,← List.nil_append (lastN m l),← parts]
        exact full
      · exact .inr enough
    | append i entry =>
      by_cases empty : entry = []
      · simp only [List.filterMap_cons,Call.entry?,if_pos empty,List.foldl_cons,shared]
        exact ih l seen ⟨lost,whole,full⟩
      · have grown := ih (l ++ [entry]) (seen ++ [entry]) ⟨lost,by rw [whole,List.append_assoc],
          full.imp_right fun enough => by rw [List.length_append]; omega⟩
        simp only [List.filterMap_cons,Call.entry?,if_neg empty,List.foldl_cons,shared]
        rw [List.append_assoc] at grown
        exact grown

structure Session (path : Path) (m : Nat) (history : History) : Prop where
  path : history.path = some path
  incremental : history.persistence = .incremental
  limit : history.maxEntries = m

/- The files before the first load, and as the list has it ever after. -/
structure Keeps (path : Path) (m : Nat) (desk : Desk) (l : List Text) (n : Nat) : Prop where
  count : desk.sessions.length = n
  sessions : ∀ history ∈ desk.sessions, Session path m history
  sturdy : ∀ e ∈ l, e ≠ [] ∧ Sturdy e
  files : n = 0 ∧ l = [] ∧ Fresh desk.files path ∨ desk.files.Holds path (bytesOf l)

theorem keepsRecorded {path : Path} {m : Nat} {desk : Desk} {l : List Text} {n : Nat}
    (keeps : Keeps path m desk l n) : recorded desk.files path = .ok l := by
  rcases keeps.files with ⟨_,rfl,missing,_⟩ | holds
  · rw [recorded,missing]
  · rw [recorded,Files.holdsRead holds]
    simp only [entriesRead keeps.sturdy]

theorem loadRecorded (files : Files) (path : Path) (m : Nat) :
    load files path .incremental m = do
      let l ← recorded files path
      let files' ← files.write path (bytesOf (lastN (max m 1) l))
      return (⟨some path,lastN (max m 1) l,.incremental,max m 1,0,false⟩,files') := by
  unfold load recorded
  cases files.read path with
  | ok content => rfl
  | error e => cases e <;> rfl

theorem keepsOpened {path : Path} {m : Nat} {desk : Desk} {l : List Text} {n : Nat}
    (keeps : Keeps path m desk l n) : ∃ old, desk.files.openForWriting path = .ok old := by
  rcases keeps.files with ⟨_,_,_,opened⟩ | holds
  · exact opened
  · exact ⟨_,Files.holdsOpened holds⟩

theorem loadKeeps {path : Path} {m : Nat} {desk : Desk} {l : List Text} {n : Nat} (positive : 1 ≤ m)
    (keeps : Keeps path m desk l n) :
    ∃ history files, load desk.files path .incremental m = .ok (history,files) ∧
      history.entries = lastN m l ∧
      Keeps path m ⟨desk.sessions ++ [history],files⟩ (lastN m l) (n + 1) := by
  obtain ⟨old,opened⟩ := keepsOpened keeps
  obtain ⟨files,written,holds⟩ := Files.writeHolds opened (bytesOf (lastN m l))
  have loaded : load desk.files path .incremental m = .ok (⟨some path,lastN m l,.incremental,m,0,false⟩,files) := by
    rw [loadRecorded,keepsRecorded keeps,Nat.max_eq_left positive]
    simp only [bind,Except.bind,pure,Except.pure,written]
  refine ⟨_,files,loaded,rfl,?_⟩
  refine ⟨by simp [keeps.count],?_,fun e inside => keeps.sturdy e (List.mem_of_mem_drop inside),.inr holds⟩
  intro history inside
  rcases List.mem_append.mp inside with before | new
  · exact keeps.sessions history before
  · rw [List.mem_singleton.mp new]
    exact ⟨rfl,rfl,rfl⟩

theorem bytesGrow (l : List Text) (entry : Text) : bytesOf (l ++ [entry]) = bytesOf l ++ recordBytes entry := by
  rw [bytesOf,List.flatMap_append,List.flatMap_singleton]
  rfl

theorem appendKeeps {path : Path} {m : Nat} {desk : Desk} {l : List Text} {n i : Nat} {entry : Text}
    (keeps : Keeps path m desk l n) (known : i < n) (sturdy : Sturdy entry) :
    ∃ history history' files, desk.sessions[i]? = some history ∧
      desk.call path m (.append i entry) = .ok ⟨desk.sessions.set i history',files⟩ ∧
      history'.entries = (if entry = [] then history.entries else lastN m (history.entries ++ [entry])) ∧
      Keeps path m ⟨desk.sessions.set i history',files⟩ (shared m l (.append i entry)) n := by
  have inside : i < desk.sessions.length := by rw [keeps.count]; exact known
  have there : desk.sessions[i]? = some desk.sessions[i] := List.getElem?_eq_getElem inside
  have session := keeps.sessions _ (List.getElem_mem inside)
  have holds : desk.files.Holds path (bytesOf l) := by
    rcases keeps.files with ⟨none,_⟩ | holds
    · omega
    · exact holds
  by_cases empty : entry = []
  · subst empty
    refine ⟨_,desk.sessions[i],desk.files,there,?_,rfl,?_⟩
    · simp only [Desk.call,there]
      rfl
    · rw [List.set_getElem_self]
      exact keeps
  · obtain ⟨files,written,holds'⟩ := Files.appendHolds holds (recordBytes entry)
    refine ⟨_,{ desk.sessions[i] with
      entries := lastN m (desk.sessions[i].entries ++ [entry])
      added := desk.sessions[i].added + 1 },files,there,?_,by rw [if_neg empty],?_⟩
    · have given : ¬ entry.isEmpty := by rwa [List.isEmpty_iff]
      simp only [Desk.call,there,append,if_neg given,session.path,session.incremental,session.limit,
        written,trim]
      rfl
    · rw [shared,if_neg empty]
      refine ⟨by rw [List.length_set]; exact keeps.count,?_,?_,.inr (by rw [bytesGrow]; exact holds')⟩
      · intro history member
        rcases List.mem_or_eq_of_mem_set member with old | rfl
        · exact keeps.sessions history old
        · exact ⟨session.path,session.incremental,session.limit⟩
      · intro e member
        rcases List.mem_append.mp member with old | new
        · exact keeps.sturdy e old
        · rw [List.mem_singleton.mp new]
          exact ⟨empty,sturdy⟩

theorem callKeeps {path : Path} {m : Nat} {desk : Desk} {l : List Text} {n : Nat} {call : Call}
    (positive : 1 ≤ m) (keeps : Keeps path m desk l n) (known : Known n [call])
    (sturdy : ∀ i entry, call = .append i entry → Sturdy entry) :
    ∃ desk', desk.call path m call = .ok desk' ∧ Keeps path m desk' (shared m l call) (n + loads [call]) ∧
      ∀ k, call.Spares k → Viewed m desk l k → Viewed m desk' (shared m l call) k := by
  cases call with
  | load =>
    obtain ⟨new,files,loaded,_,keeps'⟩ := loadKeeps positive keeps
    refine ⟨_,by rw [Desk.call,loaded]; rfl,keeps',?_⟩
    rintro k - ⟨history,there,view⟩
    have inside := (List.getElem?_eq_some_iff.mp there).1
    exact ⟨history,by rw [List.getElem?_append_left inside]; exact there,by rw [shared,lastNAgain]; exact view⟩
  | append i entry =>
    obtain ⟨old,new,files,was,called,entries,keeps'⟩ := appendKeeps keeps known.1 (sturdy i entry rfl)
    refine ⟨_,called,keeps',?_⟩
    rintro k rfl ⟨history,there,view⟩
    obtain rfl : history = old := Option.some.inj (there.symm.trans was)
    refine ⟨new,List.getElem?_set_self (List.getElem?_eq_some_iff.mp there).1,?_⟩
    rw [entries,shared]
    split
    · exact view
    · rw [view,lastNAppend positive]

theorem knownAppend {n : Nat} {a b : List Call} : Known n (a ++ b) ↔ Known n a ∧ Known (n + loads a) b := by
  induction a generalizing n with
  | nil => exact ⟨fun h => ⟨trivial,h⟩,fun h => h.2⟩
  | cons call rest ih =>
    cases call with
    | load =>
      have more : n + loads (.load :: rest) = n + 1 + loads rest := by
        simp only [loads,List.count_cons_self]; omega
      rw [more]
      exact ih
    | append i entry =>
      exact ⟨fun h => ⟨⟨h.1,(ih.mp h.2).1⟩,(ih.mp h.2).2⟩,fun h => ⟨h.1.1,ih.mpr ⟨h.1.2,h.2⟩⟩⟩

theorem runKeeps {path : Path} {m : Nat} {calls : List Call} {desk : Desk} {l : List Text} {n : Nat}
    (positive : 1 ≤ m) (keeps : Keeps path m desk l n) (known : Known n calls)
    (sturdy : ∀ i entry, .append i entry ∈ calls → Sturdy entry) :
    ∃ desk', calls.foldlM (Desk.call path m) desk = .ok desk' ∧
      Keeps path m desk' (calls.foldl (shared m) l) (n + loads calls) ∧
      ∀ k, (∀ call ∈ calls, call.Spares k) → Viewed m desk l k → Viewed m desk' (calls.foldl (shared m) l) k := by
  induction calls generalizing desk l n with
  | nil => exact ⟨desk,rfl,keeps,fun _ _ view => view⟩
  | cons call rest ih =>
    obtain ⟨known₁,known₂⟩ := (knownAppend (a := [call])).mp known
    obtain ⟨desk₁,called,keeps₁,view₁⟩ := callKeeps positive keeps known₁ fun i entry same =>
      sturdy i entry (same ▸ List.mem_cons_self)
    obtain ⟨desk₂,ran,keeps₂,view₂⟩ := ih keeps₁ known₂ fun i entry later =>
      sturdy i entry (List.mem_cons_of_mem _ later)
    refine ⟨desk₂,by rw [List.foldlM_cons,called]; exact ran,?_,?_⟩
    · have split : loads ([call] ++ rest) = loads [call] + loads rest := List.count_append
      have more : loads (call :: rest) = loads [call] + loads rest := split
      rw [more,← Nat.add_assoc]
      exact keeps₂
    · intro k spares view
      exact view₂ k (fun c later => spares c (List.mem_cons_of_mem _ later))
        (view₁ k (spares call List.mem_cons_self) view)

/- Holds after every call of a sequence, as the calls before it are a sequence as well. -/
theorem sessionsShareList {files : Files} {path : Path} {m : Nat} (positive : 1 ≤ m) (fresh : Fresh files path)
    {calls : List Call} (known : Known 0 calls)
    (sturdy : ∀ i entry, .append i entry ∈ calls → Sturdy entry) :
    ∃ desk, calls.foldlM (Desk.call path m) ⟨[],files⟩ = .ok desk ∧
      recorded desk.files path = .ok (calls.foldl (shared m) []) ∧
      (∃ history files', load desk.files path .incremental m = .ok (history,files') ∧
        history.entries = lastN m (calls.foldl (shared m) []) ∧
        recorded files' path = .ok (lastN m (calls.foldl (shared m) []))) ∧
      (∃ lost, calls.filterMap Call.entry? = lost ++ calls.foldl (shared m) [] ∧
        (lost = [] ∨ m ≤ (calls.foldl (shared m) []).length)) ∧
      ∀ before after, calls = before ++ .load :: after → (∀ call ∈ after, call.Spares (loads before)) →
        Viewed m desk (calls.foldl (shared m) []) (loads before) := by
  have start : Keeps path m ⟨[],files⟩ [] 0 := ⟨rfl,nofun,nofun,.inl ⟨rfl,rfl,fresh⟩⟩
  obtain ⟨desk,ran,keeps,_⟩ := runKeeps positive start known sturdy
  obtain ⟨history,files',loaded,entries,keeps'⟩ := loadKeeps positive keeps
  refine ⟨desk,ran,keepsRecorded keeps,⟨history,files',loaded,entries,keepsRecorded keeps'⟩,
    sharedSuffix m calls,?_⟩
  rintro before after rfl spares
  obtain ⟨known₁,known₂⟩ := knownAppend.mp known
  obtain ⟨desk₁,ran₁,keeps₁,_⟩ := runKeeps positive start known₁ fun i entry inside =>
    sturdy i entry (List.mem_append_left _ inside)
  -- the load of this session shows it the end of the list; the calls after it keep that
  obtain ⟨own,files₁,loaded₁,view,keeps₂⟩ := loadKeeps positive keeps₁
  obtain ⟨desk₂,ran₂,_,views⟩ := runKeeps positive keeps₂ known₂ fun i entry inside =>
    sturdy i entry (List.mem_append_right _ (List.mem_cons_of_mem _ inside))
  have place : (desk₁.sessions ++ [own])[loads before]? = some own := by
    have count : desk₁.sessions.length = loads before := by rw [keeps₁.count,Nat.zero_add]
    rw [← count,List.getElem?_concat_length]
  have same : desk = desk₂ := by
    have whole : (before ++ .load :: after).foldlM (Desk.call path m) ⟨[],files⟩ = .ok desk₂ := by
      rw [List.foldlM_append,ran₁]
      show (Call.load :: after).foldlM (Desk.call path m) desk₁ = .ok desk₂
      rw [List.foldlM_cons,Desk.call,loaded₁]
      exact ran₂
    exact Except.ok.inj (ran.symm.trans whole)
  rw [same,List.foldl_append]
  exact views (loads before) spares ⟨own,place,by rw [lastNAgain]; exact view⟩

def turns : List Call :=
  [.load,.load,.append 0 ['a'],.append 1 ['b','\n','c'],.append 0 [],.append 1 ['d'],.load,.append 2 ['\r','e']]

theorem sessionsShareTurns : 1 ≤ 2 ∧ Fresh {} [['h']] ∧ Known 0 turns ∧
    (∀ i entry, .append i entry ∈ turns → Sturdy entry) ∧
    ∃ desk, turns.foldlM (Desk.call [['h']] 2) ⟨[],{}⟩ = .ok desk ∧
      recorded desk.files [['h']] = .ok [['b','\n','c'],['d'],['\r','e']] ∧
      Viewed 2 desk [['b','\n','c'],['d'],['\r','e']] 2 := by
  have fresh : Fresh {} [['h']] := ⟨rfl,[],rfl⟩
  have known : Known 0 turns := by simp [turns,Known]
  have sturdy : ∀ i entry, .append i entry ∈ turns → Sturdy entry := by
    intro i entry inside
    simp only [turns,List.mem_cons,List.not_mem_nil,Call.append.injEq,reduceCtorEq,false_or,or_false] at inside
    rcases inside with ⟨_,rfl⟩ | ⟨_,rfl⟩ | ⟨_,rfl⟩ | ⟨_,rfl⟩ | ⟨_,rfl⟩ <;> exact ⟨by decide,by decide⟩
  obtain ⟨desk,ran,read,_,_,views⟩ := sessionsShareList (m := 2) (by decide) fresh known sturdy
  refine ⟨by decide,fresh,known,sturdy,desk,ran,read,?_⟩
  refine views (turns.take 6) [.append 2 ['\r','e']] rfl fun call inside => ?_
  rw [List.mem_singleton.mp inside]
  rfl

end ScriptConsole.History
