import ScriptConsole.History.Basic
import ScriptConsole.Proofs.Text.Row
import ScriptConsole.Proofs.Text.Utf8

/-! The file of a history and the entries it stands for: what is written record by record is read
back entry by entry, each without the carriage return at its end. -/
namespace ScriptConsole.History

/- An entry that comes back from its record. U+0001 would come back as a newline, and a last carriage
return would be taken for a part of the line's end. -/
structure Sturdy (entry : Text) : Prop where
  unfolded : fold ∉ entry
  ending : entry.getLast? ≠ some '\r'

def unreturned (l : Text) : Text := if l.getLast? = some '\r' then l.dropLast else l

theorem unreturnedIff (e : Text) : unreturned e = e ↔ e.getLast? ≠ some '\r' := by
  rw [unreturned]
  split
  · rename_i ends
    refine ⟨fun same => ?_,fun other => absurd ends other⟩
    have content : e ≠ [] := by rintro rfl; cases ends
    have lengths := congrArg List.length same
    have positive := List.length_pos_iff.mpr content
    rw [List.length_dropLast] at lengths
    omega
  · rename_i ends
    exact ⟨fun _ => ends,fun _ => rfl⟩

theorem linesOfRecords {records : List Text} (one : ∀ r ∈ records, '\n' ∉ r) :
    Text.lines (records.flatMap (· ++ ['\n'])) = records.map unreturned := by
  have pieces : Text.rows (records.flatMap (· ++ ['\n'])) = records ++ [[]] := by
    induction records with
    | nil => rfl
    | cons first rest ih =>
      rw [List.flatMap_cons,List.append_assoc,List.singleton_append,Text.rowsAppend,
        Text.rowsSole (one first List.mem_cons_self),ih fun r inside => one r (List.mem_cons_of_mem _ inside)]
      rfl
  rw [Text.rows] at pieces
  simp only [Text.lines,pieces,List.dropLast_concat,List.getLast?_concat]
  rfl

theorem encodedOne (entry : Text) : '\n' ∉ encodeEntry entry := by
  intro inside
  obtain ⟨c,_,newline⟩ := List.mem_map.mp inside
  split at newline <;> contradiction

theorem encodedLast (entry : Text) : (encodeEntry entry).getLast? = some '\r' ↔ entry.getLast? = some '\r' := by
  rw [encodeEntry,List.getLast?_map]
  cases entry.getLast? with
  | none => exact Iff.rfl
  | some c =>
    by_cases newline : c = '\n'
    · subst newline; decide
    · simp [newline]

theorem unreturnedEncoded (entry : Text) : unreturned (encodeEntry entry) = encodeEntry (unreturned entry) := by
  simp only [unreturned,encodedLast]
  split
  · rw [encodeEntry,encodeEntry,List.map_dropLast]
  · rfl

theorem decodeEncoded {entry : Text} (unfolded : fold ∉ entry) : decodeEntry (encodeEntry entry) = entry := by
  rw [decodeEntry,encodeEntry,List.map_map]
  calc entry.map _ = entry.map id := List.map_congr_left fun c inside => ?_
    _ = entry := List.map_id entry
  have folded : c ≠ fold := fun same => unfolded (same ▸ inside)
  simp only [Function.comp_apply,id]
  by_cases newline : c = '\n'
  · rw [if_pos newline,if_pos rfl,newline]
  · rw [if_neg newline,if_neg folded]

theorem bytesText (entries : List Text) :
    bytesOf entries = Utf8.encode ((entries.map encodeEntry).flatMap (· ++ ['\n'])) := by
  induction entries with
  | nil => rfl
  | cons first rest ih =>
    rw [bytesOf] at ih ⊢
    simp only [List.flatMap_cons,List.map_cons,ih,recordBytes,Utf8.encode,List.flatMap_append]

def worn (entries : List Text) : List Text := (entries.map unreturned).filter (!·.isEmpty)

theorem wornMember {entries : List Text} {e : Text} (inside : e ∈ worn entries) :
    e ≠ [] ∧ ∃ old ∈ entries, e <+: old := by
  obtain ⟨there,some⟩ := List.mem_filter.mp inside
  obtain ⟨old,was,rfl⟩ := List.mem_map.mp there
  refine ⟨by simpa using some,old,was,?_⟩
  rw [unreturned]
  split
  · exact List.dropLast_prefix old
  · exact List.prefix_rfl

theorem entriesWorn {entries : List Text} (unfolded : ∀ e ∈ entries, fold ∉ e) :
    entriesOf (bytesOf entries) = worn entries := by
  have one : ∀ r ∈ entries.map encodeEntry, '\n' ∉ r := by
    intro r inside
    obtain ⟨e,_,rfl⟩ := List.mem_map.mp inside
    exact encodedOne e
  have swapped : (entries.map encodeEntry).map unreturned = (entries.map unreturned).map encodeEntry := by
    simp only [List.map_map]
    exact List.map_congr_left fun e _ => unreturnedEncoded e
  have content : ∀ e : Text, (encodeEntry e).isEmpty = e.isEmpty := fun e => List.isEmpty_map
  have back : ∀ e ∈ worn entries, (decodeEntry ∘ encodeEntry) e = id e := by
    intro e inside
    obtain ⟨_,old,was,part⟩ := wornMember inside
    exact decodeEncoded fun folded => unfolded old was (part.subset folded)
  calc entriesOf (bytesOf entries)
      = (((entries.map unreturned).map encodeEntry).filter (!·.isEmpty)).map decodeEntry := by
        rw [entriesOf,bytesText,Utf8.decodeLossyEncode,linesOfRecords one,swapped]
    _ = ((worn entries).map encodeEntry).map decodeEntry := by
        simp only [List.filter_map,Function.comp_def,content,worn]
    _ = worn entries := by rw [List.map_map,List.map_congr_left back,List.map_id]

theorem wornIff {entries : List Text} (content : ∀ e ∈ entries, e ≠ []) :
    worn entries = entries ↔ ∀ e ∈ entries, e.getLast? ≠ some '\r' := by
  constructor
  · intro same e inside
    have whole : worn entries = entries.map unreturned := by
      have lengths : (worn entries).length = (entries.map unreturned).length := by rw [same,List.length_map]
      exact List.filter_eq_self.mpr (List.length_filter_eq_length_iff.mp lengths)
    have each : entries.map unreturned = entries.map id := by rw [← whole,same,List.map_id]
    exact (unreturnedIff e).mp (List.map_inj_left.mp each e inside)
  · intro ends
    have kept : entries.map unreturned = entries.map id :=
      List.map_congr_left fun e inside => (unreturnedIff e).mpr (ends e inside)
    rw [worn,kept,List.map_id]
    exact List.filter_eq_self.mpr fun e inside => by simpa using content e inside

theorem entriesRead {entries : List Text} (sturdy : ∀ e ∈ entries, e ≠ [] ∧ Sturdy e) :
    entriesOf (bytesOf entries) = entries := by
  rw [entriesWorn fun e there => (sturdy e there).2.unfolded]
  exact (wornIff fun e there => (sturdy e there).1).mpr fun e there => (sturdy e there).2.ending

end ScriptConsole.History
