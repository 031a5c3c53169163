import ScriptConsole.Edit.Completion
import ScriptConsole.Proofs.Text.Offset

/-! Completion counted in bytes. The lead that candidates share is cut out of the first of them, and
what a word lacks is cut out of a candidate; each cut falls between two characters, and the lengths in
bytes decide as the lengths in characters do. -/
namespace ScriptConsole

namespace Text

theorem sharedLeads (a b : Text) : sharedLead a b <+: a := by
  induction a generalizing b with
  | nil => cases b <;> exact List.prefix_rfl
  | cons c rest ih =>
    cases b with
    | nil => exact List.nil_prefix
    | cons d more =>
      rw [sharedLead]
      split
      · exact (List.prefix_cons_inj c).mpr (ih more)
      · exact List.nil_prefix

theorem sharedSwap (a b : Text) : sharedLead a b = sharedLead b a := by
  induction a generalizing b with
  | nil => cases b <;> rfl
  | cons c rest ih =>
    cases b with
    | nil => rfl
    | cons d more =>
      simp only [sharedLead,eq_comm (a := d)]
      split
      · rename_i same
        rw [ih,same]
      · rfl

theorem sharedFollows (a b : Text) : sharedLead a b <+: b := by
  rw [sharedSwap]
  exact sharedLeads b a

theorem sharedKeeps {word a b : Text} (first : word <+: a) (second : word <+: b) :
    word <+: sharedLead a b := by
  induction word generalizing a b with
  | nil => exact List.nil_prefix
  | cons c word ih =>
    obtain ⟨a,rfl⟩ := first
    obtain ⟨b,rfl⟩ := second
    simp only [List.cons_append,sharedLead,if_true]
    exact (List.prefix_cons_inj c).mpr (ih (List.prefix_append word a) (List.prefix_append word b))

theorem sharedSize (lead more b : Text) :
    size (sharedLead lead b) = min (size (sharedLead (lead ++ more) b)) (size lead) := by
  induction lead generalizing b with
  | nil => simp [sharedLead,size]
  | cons c lead ih =>
    cases b with
    | nil => simp [sharedLead,size]
    | cons d b =>
      simp only [List.cons_append,sharedLead]
      split
      · simp only [size,ih]
        omega
      · simp [size]

theorem slicePrefix {part t : Text} (leads : part <+: t) : slice? t 0 (size part) = some part := by
  obtain ⟨rest,rfl⟩ := leads
  simpa [size] using sliceAppend [] part rest

theorem sliceRest (word rest : Text) :
    slice? (word ++ rest) (size word) (size (word ++ rest)) = some rest := by
  simpa [sizeAppend] using sliceAppend word rest []

end Text

namespace Completion

def sharedBytes (first : Text) (n : Nat) : List Text → Nat
  | [] => n
  | candidate :: rest => sharedBytes first (min (Text.size (Text.sharedLead first candidate)) n) rest

def commonSlice? : List Text → Option Text
  | [] => some []
  | first :: rest => Text.slice? first 0 (sharedBytes first (Text.size first) rest)

def resolveSlice? (word : Text) (candidates : List Text) : Option Answer :=
  match matching word candidates with
  | [] => some .nothing
  | [only] => (Text.slice? only (Text.size word) (Text.size only)).map .insert
  | several => do
      let shared ← commonSlice? several
      if Text.size word < Text.size shared then
        (Text.slice? shared (Text.size word) (Text.size shared)).map .insert
      else some (.list several)

theorem foldShared (lead : Text) (rest : List Text) :
    rest.foldl Text.sharedLead lead <+: lead ∧ ∀ t ∈ rest, rest.foldl Text.sharedLead lead <+: t := by
  induction rest generalizing lead with
  | nil => exact ⟨List.prefix_rfl,nofun⟩
  | cons first rest ih =>
    obtain ⟨shorter,each⟩ := ih (Text.sharedLead lead first)
    refine ⟨shorter.trans (Text.sharedLeads lead first),fun t inside => ?_⟩
    rcases List.mem_cons.mp inside with rfl | later
    · exact shorter.trans (Text.sharedFollows lead t)
    · exact each t later

theorem sharedBytesSize {first lead : Text} (leads : lead <+: first) (rest : List Text) :
    sharedBytes first (Text.size lead) rest = Text.size (rest.foldl Text.sharedLead lead) := by
  induction rest generalizing lead with
  | nil => rfl
  | cons candidate rest ih =>
    have shorter := (Text.sharedLeads lead candidate).trans leads
    obtain ⟨more,rfl⟩ := leads
    rw [sharedBytes,List.foldl_cons,← Text.sharedSize]
    exact ih shorter

theorem commonSliced (l : List Text) : commonSlice? l = some (commonPrefix l) := by
  cases l with
  | nil => rfl
  | cons first rest =>
    rw [commonSlice?,sharedBytesSize (List.prefix_refl first),commonPrefix]
    exact Text.slicePrefix (foldShared first rest).1

theorem commonMember {c : Char} {l : List Text} (inside : c ∈ commonPrefix l) : ∃ t ∈ l, c ∈ t := by
  cases l with
  | nil => cases inside
  | cons first rest => exact ⟨first,List.mem_cons_self,(foldShared first rest).1.subset inside⟩

theorem commonKeeps {word : Text} {l : List Text} (some : l ≠ []) (each : ∀ t ∈ l, word <+: t) :
    word <+: commonPrefix l := by
  cases l with
  | nil => exact absurd rfl some
  | cons first rest =>
    rw [commonPrefix]
    clear some
    induction rest generalizing first with
    | nil => exact each first List.mem_cons_self
    | cons candidate rest ih =>
      refine ih (Text.sharedLead first candidate) ?_
      intro t inside
      rcases List.mem_cons.mp inside with rfl | later
      · exact Text.sharedKeeps (each first (by simp)) (each candidate (by simp))
      · exact each t (by simp [later])

theorem distinctMembers {t : Text} {l : List Text} : t ∈ distinct l ↔ t ∈ l := by
  induction l using distinct.induct with
  | case1 a rest ih => rw [distinct,if_pos rfl,ih]; simp
  | case2 a b rest other ih => rw [distinct,if_neg other,List.mem_cons,ih,List.mem_cons (b := a)]
  | case3 short few => rw [distinct]; exact few

theorem matchingMembers {t word : Text} {l : List Text} : t ∈ matching word l ↔ t ∈ l ∧ word <+: t := by
  rw [matching,distinctMembers,List.mem_mergeSort,List.mem_filter,Text.startsWithIff]

theorem longerIff (word rest : Text) :
    Text.size word < Text.size (word ++ rest) ↔ word.length < (word ++ rest).length := by
  cases rest with
  | nil => simp
  | cons c rest =>
    have more := Text.sizePositive (t := c :: rest) (by simp)
    rw [Text.sizeAppend,List.length_append,List.length_cons]
    omega

theorem resolveSliced (word : Text) (candidates : List Text) :
    resolveSlice? word candidates = some (resolve word candidates) := by
  have each : ∀ t ∈ matching word candidates, word <+: t := fun t inside => (matchingMembers.mp inside).2
  unfold resolveSlice? resolve
  rcases found : matching word candidates with _ | ⟨first,_ | ⟨second,more⟩⟩
  · rfl
  · obtain ⟨rest,rfl⟩ := each first (by rw [found]; exact List.mem_cons_self)
    simp only [Text.sliceRest,List.drop_left,Option.map_some]
  · rw [found] at each
    obtain ⟨rest,whole⟩ := commonKeeps (List.cons_ne_nil first (second :: more)) each
    simp only [commonSliced,bind,Option.bind,← whole,longerIff,Text.sliceRest,List.drop_left]
    split <;> rfl

end Completion

end ScriptConsole
