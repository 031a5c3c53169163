import Mathlib.Logic.Function.Iterate
import ScriptConsole.Proofs.History.Sessions

/-! A history that is loaded again and again. Each load writes the file anew from what it has read, and
the next one reads that file. All that is lost on the way is one carriage return at the end of an entry
for each load, and an entry with nothing else. -/
namespace ScriptConsole.History

def reloads (path : Path) (maxEntries : Nat) : Nat → History × Files → Except IoError (History × Files)
  | 0,s => .ok s
  | n + 1,s => do reloads path maxEntries n (← load s.2 path .incremental maxEntries)

structure Settled (path : Path) (limit : Nat) (s : History × Files) : Prop where
  file : s.2.Holds path (bytesOf s.1.entries)
  within : s.1.entries.length ≤ limit
  plain : ∀ e ∈ s.1.entries, e ≠ [] ∧ fold ∉ e

theorem entriesPlain {content : Bytes} {e : Text} (inside : e ∈ entriesOf content) : e ≠ [] ∧ fold ∉ e := by
  obtain ⟨record,there,rfl⟩ := List.mem_map.mp inside
  have some := (List.mem_filter.mp there).2
  refine ⟨by simpa [decodeEntry] using some,fun folded => ?_⟩
  obtain ⟨c,_,back⟩ := List.mem_map.mp folded
  split at back
  · exact absurd back (by decide)
  · contradiction

theorem recordedPlain {files : Files} {path : Path} {l : List Text} (read : recorded files path = .ok l) :
    ∀ e ∈ l, e ≠ [] ∧ fold ∉ e := by
  unfold recorded at read
  split at read <;> cases read
  · exact fun e inside => entriesPlain inside
  · nofun

theorem loadSettles {files : Files} {path : Path} {maxEntries : Nat} {s : History × Files}
    (loaded : load files path .incremental maxEntries = .ok s) : Settled path (max maxEntries 1) s := by
  rw [loadRecorded] at loaded
  obtain ⟨l,read,ended⟩ := boundOk loaded
  obtain ⟨files',written,last⟩ := boundOk ended
  cases last
  exact ⟨Files.writtenHolds written,lastNLength _ l,fun e inside =>
    recordedPlain read e (List.mem_of_mem_drop inside)⟩

theorem settledReloads {path : Path} {maxEntries : Nat} {s : History × Files}
    (settled : Settled path (max maxEntries 1) s) :
    ∃ s', load s.2 path .incremental maxEntries = .ok s' ∧ s'.1.entries = worn s.1.entries := by
  have read : recorded s.2 path = .ok (worn s.1.entries) := by
    rw [recorded,Files.holdsRead settled.file]
    exact congrArg Except.ok (entriesWorn fun e inside => (settled.plain e inside).2)
  have few : (worn s.1.entries).length ≤ max maxEntries 1 := by
    have shorter := List.length_filter_le (!·.isEmpty) (s.1.entries.map unreturned)
    rw [List.length_map] at shorter
    exact Nat.le_trans shorter settled.within
  obtain ⟨files,written,_⟩ := Files.writeHolds (Files.holdsOpened settled.file) (bytesOf (worn s.1.entries))
  refine ⟨(⟨some path,worn s.1.entries,.incremental,max maxEntries 1,0,false⟩,files),?_,rfl⟩
  rw [loadRecorded,read]
  simp only [bind,Except.bind,pure,Except.pure,lastNWhole few,written]

theorem settledRuns {path : Path} {maxEntries : Nat} {s : History × Files}
    (settled : Settled path (max maxEntries 1) s) (n : Nat) :
    ∃ s', reloads path maxEntries n s = .ok s' ∧ s'.1.entries = worn^[n] s.1.entries ∧
      Settled path (max maxEntries 1) s' := by
  induction n generalizing s with
  | zero => exact ⟨s,rfl,rfl,settled⟩
  | succ n ih =>
    obtain ⟨s₁,loaded,once⟩ := settledReloads settled
    obtain ⟨s₂,ran,rest,settled₂⟩ := ih (loadSettles loaded)
    refine ⟨s₂,?_,?_,settled₂⟩
    · rw [reloads,loaded]
      exact ran
    · rw [rest,once,Function.iterate_succ_apply]

/- Loading again changes nothing just where no entry ends with a carriage return. -/
theorem reloadedIff {files files' : Files} {path : Path} {maxEntries : Nat} {h : History}
    (loaded : load files path .incremental maxEntries = .ok (h,files')) :
    (∃ again files'', load files' path .incremental maxEntries = .ok (again,files'') ∧
      (again.entries = h.entries ∧ files''.read path = files'.read path ↔
        ∀ e ∈ h.entries, e.getLast? ≠ some '\r')) ∧
    ∀ n, ∃ later files'', reloads path maxEntries n (h,files') = .ok (later,files'') ∧
      later.entries = worn^[n] h.entries ∧ files''.read path = .ok (bytesOf later.entries) := by
  have settled := loadSettles loaded
  have wear := wornIff fun e inside => (settled.plain e inside).1
  constructor
  · obtain ⟨⟨again,files''⟩,once,entries⟩ := settledReloads settled
    have before := Files.holdsRead settled.file
    have after := Files.holdsRead (loadSettles once).file
    dsimp only at entries before after
    refine ⟨again,files'',once,?_⟩
    rw [← wear,before,after,entries]
    exact ⟨And.left,fun same => ⟨same,by rw [same]⟩⟩
  · intro n
    obtain ⟨⟨later,files''⟩,ran,entries,settled'⟩ := settledRuns settled n
    exact ⟨later,files'',ran,entries,Files.holdsRead settled'.file⟩

def carried : Files := ⟨[([['h']],.file (Utf8.encode "x\x01y\na\r\r\n".toList) 3)]⟩

theorem carriedLoads : ∃ files', load carried [['h']] .incremental 5 =
    .ok (⟨some [['h']],["x\ny".toList,"a\r".toList],.incremental,5,0,false⟩,files') := by
  have read : recorded carried [['h']] = .ok ["x\ny".toList,"a\r".toList] := by
    rw [recorded,show carried.read [['h']] = .ok (Utf8.encode "x\x01y\na\r\r\n".toList) from rfl]
    simp only [entriesOf,Utf8.decodeLossyEncode]
    rfl
  rw [loadRecorded,read]
  exact ⟨_,rfl⟩

theorem reloadedCarried : ∃ h files', load carried [['h']] .incremental 5 = .ok (h,files') ∧
    (∃ again files'', load files' [['h']] .incremental 5 = .ok (again,files'') ∧
      ¬ (again.entries = h.entries ∧ files''.read [['h']] = files'.read [['h']])) ∧
    ∃ later files'', reloads [['h']] 5 2 (h,files') = .ok (later,files'') ∧
      later.entries = ["x\ny".toList,"a".toList] := by
  obtain ⟨files',loaded⟩ := carriedLoads
  obtain ⟨⟨again,files'',once,same⟩,runs⟩ := reloadedIff loaded
  obtain ⟨later,files₂,ran,entries,_⟩ := runs 2
  exact ⟨_,files',loaded,⟨again,files'',once,same.not.mpr (by decide)⟩,later,files₂,ran,entries⟩

theorem reloadedLoses : ∃ h files' again files'', load carried [['h']] .incremental 5 = .ok (h,files') ∧
    load files' [['h']] .incremental 5 = .ok (again,files'') ∧ again.entries ≠ h.entries := by
  obtain ⟨files',loaded⟩ := carriedLoads
  obtain ⟨⟨again,files''⟩,once,entries⟩ := settledReloads (loadSettles loaded)
  refine ⟨_,files',again,files'',loaded,once,?_⟩
  rw [show again.entries = worn ["x\ny".toList,"a\r".toList] from entries]
  decide

end ScriptConsole.History
