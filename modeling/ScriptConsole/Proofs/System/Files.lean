import ScriptConsole.System.Files

/-! What stands at one path while it is written and appended to: the last content is read back, and a
path that was written once can be written again. -/
namespace ScriptConsole.Files

def enter (files : Files) : List Path → Except IoError Unit
  | [] => .ok ()
  | above :: rest =>
      match files.at? above with
      | some (.directory _) => files.enter rest
      | some _ => .error .notADirectory
      | none => .error .notFound

def stands (files : Files) (path : Path) : Except IoError FileNode :=
  match files.at? path with
  | some node => .ok node
  | none => .error .notFound

theorem findEnters (files : Files) (path : Path) :
    files.find path = (files.enter (ancestors path)).bind fun _ => files.stands path := by
  unfold find
  generalize ancestors path = above
  induction above with
  | nil => rfl
  | cons first rest ih =>
    simp only [List.forIn_cons]
    rw [enter]
    cases files.at? first with
    | none => rfl
    | some node =>
      cases node with
      | file content age => rfl
      | socket => rfl
      | directory mode => exact ih

theorem findKeeping {change : Path × FileNode → Path × FileNode} (keeps : ∀ e, (change e).1 = e.1)
    (entries : List (Path × FileNode)) (path : Path) :
    (entries.map change).find? (·.1 = path) = (entries.find? (·.1 = path)).map change := by
  rw [List.find?_map]
  congr 2
  funext entry
  simp [keeps]

theorem putAt {path : Path} (below : path ≠ []) (files : Files) (node : FileNode) :
    (files.put path node).at? path = some node := by
  simp only [at?,if_neg below,put]
  split
  · rename_i there
    obtain ⟨entry,found⟩ := Option.isSome_iff_exists.mp (List.find?_isSome.mpr (List.any_eq_true.mp there))
    have same : entry.1 = path := by simpa using List.find?_some found
    rw [findKeeping (by intro e; split <;> rfl),found]
    simp [same]
  · rename_i absent
    have none : files.entries.find? (·.1 = path) = none := by
      rw [List.find?_eq_none]
      intro entry inside same
      exact absent (List.any_eq_true.mpr ⟨entry,inside,same⟩)
    simp [List.find?_append,none]

theorem putOther {path other : Path} (apart : other ≠ path) (files : Files) (node : FileNode) :
    (files.put path node).at? other = files.at? other := by
  simp only [at?,put]
  split
  · rfl
  · split
    · rw [findKeeping (by intro e; split <;> rfl)]
      cases found : files.entries.find? (·.1 = other) with
      | none => rfl
      | some entry =>
        have same : entry.1 = other := by simpa using List.find?_some found
        simp [same,apart]
    · simp [List.find?_append,Ne.symm apart]

theorem ancestorsShort {path above : Path} (inside : above ∈ ancestors path) : above ≠ path := by
  obtain ⟨n,short,rfl⟩ := List.mem_map.mp inside
  have short := List.mem_range.mp short
  intro same
  have lengths := congrArg List.length same
  rw [List.length_take] at lengths
  omega

theorem enterPut (files : Files) (path : Path) (node : FileNode) :
    (files.put path node).enter (ancestors path) = files.enter (ancestors path) := by
  have apart : ∀ above ∈ ancestors path, above ≠ path := fun _ inside => ancestorsShort inside
  generalize ancestors path = above at apart ⊢
  induction above with
  | nil => rfl
  | cons first rest ih =>
    have later := ih fun a inside => apart a (List.mem_cons_of_mem _ inside)
    simp only [enter,putOther (apart first List.mem_cons_self),later]

theorem ancestorsDrop {path : Path} (below : path ≠ []) :
    ancestors path = ancestors path.dropLast ++ [path.dropLast] := by
  obtain ⟨n,length⟩ : ∃ n, path.length = n + 1 := ⟨path.length - 1,by have := List.length_pos_iff.mpr below; omega⟩
  have shorter : path.dropLast.length = n := by rw [List.length_dropLast]; omega
  simp only [ancestors,length,shorter,List.range_succ,List.map_append,List.map_cons,List.map_nil]
  rw [List.dropLast_eq_take,length]
  congr 1
  refine List.map_congr_left fun i inside => ?_
  have small := List.mem_range.mp inside
  rw [List.take_take]
  congr 1
  omega

theorem enterAppend (files : Files) (a b : List Path) :
    files.enter (a ++ b) = (files.enter a).bind fun _ => files.enter b := by
  induction a with
  | nil => rfl
  | cons first rest ih =>
    simp only [List.cons_append,enter]
    cases files.at? first with
    | none => rfl
    | some node => cases node <;> first | rfl | exact ih

structure Holds (files : Files) (path : Path) (content : Bytes) : Prop where
  way : files.enter (ancestors path) = .ok ()
  below : path ≠ []
  there : ∃ age, files.at? path = some (.file content age)

theorem holdsFound {files : Files} {path : Path} {content : Bytes} (holds : files.Holds path content) :
    ∃ age, files.find path = .ok (.file content age) := by
  obtain ⟨age,there⟩ := holds.there
  exact ⟨age,by rw [findEnters,holds.way]; simp only [Except.bind,stands,there]⟩

theorem holdsRead {files : Files} {path : Path} {content : Bytes} (holds : files.Holds path content) :
    files.read path = .ok content := by
  obtain ⟨age,found⟩ := holdsFound holds
  simp only [read,found]
  rfl

theorem putHolds {files : Files} {path : Path} (way : files.enter (ancestors path) = .ok ())
    (below : path ≠ []) (content : Bytes) : (files.put path (.file content 0)).Holds path content :=
  ⟨by rw [enterPut,way],below,0,putAt below files _⟩

theorem foundParts {files : Files} {path : Path} {node : FileNode} (found : files.find path = .ok node) :
    files.enter (ancestors path) = .ok () ∧ files.at? path = some node := by
  rw [findEnters] at found
  cases way : files.enter (ancestors path) with
  | error e => rw [way] at found; contradiction
  | ok passed =>
    simp only [way,Except.bind,stands] at found
    cases there : files.at? path with
    | none => rw [there] at found; contradiction
    | some node' =>
      rw [there] at found
      cases found
      exact ⟨rfl,rfl⟩

theorem openedWay {files : Files} {path : Path} {old : Bytes} (opened : files.openForWriting path = .ok old) :
    files.enter (ancestors path) = .ok () ∧ path ≠ [] := by
  rw [openForWriting] at opened
  cases found : files.find path with
  | ok node =>
    obtain ⟨way,there⟩ := foundParts found
    refine ⟨way,?_⟩
    rintro rfl
    cases there
    rw [found] at opened
    contradiction
  | error e =>
    rw [found] at opened
    cases e <;> try contradiction
    simp only at opened
    split at opened <;> try contradiction
    rename_i named
    have below : path ≠ [] := List.getLast?_isSome.mp named
    refine ⟨?_,below⟩
    cases parent : files.find path.dropLast with
    | error e => rw [parent] at opened; contradiction
    | ok node =>
      rw [parent] at opened
      cases node <;> try contradiction
      obtain ⟨way,there⟩ := foundParts parent
      rw [ancestorsDrop below,enterAppend,way]
      simp only [Except.bind,enter,there]

theorem writeHolds {files : Files} {path : Path} {old : Bytes} (opened : files.openForWriting path = .ok old)
    (content : Bytes) : ∃ files', files.write path content = .ok files' ∧ files'.Holds path content := by
  obtain ⟨way,below⟩ := openedWay opened
  exact ⟨_,by rw [write,opened]; rfl,putHolds way below content⟩

theorem writtenHolds {files files' : Files} {path : Path} {content : Bytes}
    (written : files.write path content = .ok files') : files'.Holds path content := by
  cases opened : files.openForWriting path with
  | error e => rw [write,opened] at written; cases written
  | ok old =>
    obtain ⟨_,again,holds⟩ := writeHolds opened content
    cases written.symm.trans again
    exact holds

theorem holdsOpened {files : Files} {path : Path} {content : Bytes} (holds : files.Holds path content) :
    files.openForWriting path = .ok content := by
  obtain ⟨age,found⟩ := holdsFound holds
  rw [openForWriting,found]

theorem appendHolds {files : Files} {path : Path} {old : Bytes} (holds : files.Holds path old) (more : Bytes) :
    ∃ files', files.append path more = .ok files' ∧ files'.Holds path (old ++ more) :=
  ⟨_,by rw [append,holdsOpened holds]; rfl,putHolds holds.way holds.below _⟩

end ScriptConsole.Files
