import Mathlib.Data.Char
import Mathlib.Data.List.DropRight
import Mathlib.Data.List.Lex
import Mathlib.Data.List.Sort
import ScriptConsole.Edit.Editor
import ScriptConsole.Proofs.Edit.Candidates
import ScriptConsole.Proofs.Edit.Zipper
import ScriptConsole.Proofs.Text.Line

/-! Tab behind a word. What it does depends only on which of the candidates offered start with the word:
they are a set with one longest common lead, and neither their order nor their number counts. -/
namespace ScriptConsole

namespace Text

theorem ltIff {a b : Text} : lt a b = true ↔ a < b := by
  induction a generalizing b with
  | nil => cases b <;> simp [lt]
  | cons c rest ih =>
    cases b with
    | nil => simp [lt]
    | cons d more =>
      have first : c.val < d.val ↔ c < d := Iff.rfl
      simp [lt,ih,List.cons_lt_cons_iff,first]

theorem leIff {a b : Text} : le a b = true ↔ a ≤ b := by
  rw [le,Bool.not_eq_true',← Bool.not_eq_true,ltIff,not_lt]

end Text

namespace Completion

/-! ## The matches -/

structure Longest (lead : Text) (fits : Text → Prop) : Prop where
  shared : ∀ t, fits t → lead <+: t
  most : ∀ other, (∀ t, fits t → other <+: t) → other <+: lead

def Several (fits : Text → Prop) : Prop := ∃ a b, fits a ∧ fits b ∧ a ≠ b

def Matches (word : Text) (offered : List Text) (t : Text) : Prop := t ∈ offered ∧ word <+: t

structure Listing (l : List Text) (fits : Text → Prop) : Prop where
  ascending : l.Pairwise (· < ·)
  members : ∀ t, t ∈ l ↔ fits t

theorem longestUnique {a b : Text} {fits : Text → Prop} (first : Longest a fits) (second : Longest b fits) :
    a = b := by
  have below := second.most a first.shared
  have above := first.most b second.shared
  exact below.eq_of_length (Nat.le_antisymm below.length_le above.length_le)

theorem distinctAscends {l : List Text} (sorted : l.Pairwise (· ≤ ·)) : (distinct l).Pairwise (· < ·) := by
  induction l using distinct.induct with
  | case1 a rest ih =>
    rw [distinct,if_pos rfl]
    exact ih sorted.of_cons
  | case2 a b rest other ih =>
    rw [distinct,if_neg other]
    obtain ⟨above,sorted⟩ := List.pairwise_cons.mp sorted
    have next : a < b := lt_of_le_of_ne (above b List.mem_cons_self) other
    refine List.pairwise_cons.mpr ⟨fun t inside => ?_,ih sorted⟩
    rcases List.mem_cons.mp (distinctMembers.mp inside) with rfl | later
    · exact next
    · exact lt_of_lt_of_le next (List.rel_of_pairwise_cons sorted later)
  | case3 short few =>
    rcases short with _ | ⟨a,_ | ⟨b,rest⟩⟩
    · exact List.Pairwise.nil
    · exact List.pairwise_singleton _ a
    · exact absurd rfl (few a b rest)

theorem matchingListing (word : Text) (offered : List Text) :
    Listing (matching word offered) (Matches word offered) where
  ascending := by
    refine distinctAscends ?_
    have sorted : ((offered.filter (Text.startsWith · word)).mergeSort Text.le).Pairwise (Text.le · ·) := by
      refine List.pairwise_mergeSort (fun a b c first second => ?_) (fun a b => ?_) _
      · exact Text.leIff.mpr ((Text.leIff.mp first).trans (Text.leIff.mp second))
      · simpa [Text.leIff] using le_total a b
    exact sorted.imp Text.leIff.mp
  members _ := matchingMembers

theorem listingUnique {l l' : List Text} {fits : Text → Prop} (first : Listing l fits) (second : Listing l' fits) :
    l = l' :=
  first.ascending.eq_of_mem_iff second.ascending fun t => (first.members t).trans (second.members t).symm

theorem commonLongest {l : List Text} (content : l ≠ []) : Longest (commonPrefix l) (· ∈ l) where
  shared t inside := by
    cases l with
    | nil => exact absurd rfl content
    | cons first rest =>
      obtain ⟨leads,each⟩ := foldShared first rest
      rcases List.mem_cons.mp inside with rfl | later
      · exact leads
      · exact each t later
  most _ each := commonKeeps content each

theorem listingLongest {l : List Text} {fits : Text → Prop} (listing : Listing l fits) (content : l ≠ []) :
    Longest (commonPrefix l) fits where
  shared t there := (commonLongest content).shared t ((listing.members t).mpr there)
  most other each := (commonLongest content).most other fun t inside => each t ((listing.members t).mp inside)

structure Resolves (word : Text) (fits : Text → Prop) (a : Answer) : Prop where
  nothing : (∀ t, ¬ fits t) → a = .nothing
  listed : Several fits → Longest word fits → ∃ l, Listing l fits ∧ a = .list l
  inserted : (∃ t, fits t) → ¬ (Several fits ∧ Longest word fits) →
    ∃ rest, Longest (word ++ rest) fits ∧ a = .insert rest

theorem resolveResolves (word : Text) (offered : List Text) :
    Resolves word (Matches word offered) (resolve word offered) := by
  have listing := matchingListing word offered
  have leads : ∀ t, Matches word offered t → word <+: t := fun _ there => there.2
  unfold resolve
  generalize Matches word offered = fits at listing leads
  rcases found : matching word offered with _ | ⟨first,_ | ⟨second,more⟩⟩ <;> rw [found] at listing
  · have none (t : Text) : ¬ fits t := fun there => nomatch (listing.members t).mpr there
    exact ⟨fun _ => rfl,fun ⟨a,_,there,_⟩ => absurd there (none a),fun ⟨t,there⟩ => absurd there (none t)⟩
  · have there : fits first := (listing.members first).mp List.mem_cons_self
    have longest : Longest first fits := listingLongest listing (List.cons_ne_nil first [])
    have only (t : Text) (fit : fits t) : t = first := List.mem_singleton.mp ((listing.members t).mpr fit)
    obtain ⟨rest,rfl⟩ := leads first there
    refine ⟨fun none => absurd there (none _),fun ⟨a,b,fit,fit',apart⟩ => ?_,fun _ _ => ⟨rest,longest,?_⟩⟩
    · exact absurd ((only a fit).trans (only b fit').symm) apart
    · exact congrArg Answer.insert List.drop_left
  · have there : fits first := (listing.members first).mp List.mem_cons_self
    have several : Several fits :=
      ⟨first,second,there,(listing.members second).mp (by simp),
        ne_of_lt (List.rel_of_pairwise_cons listing.ascending List.mem_cons_self)⟩
    have longest := listingLongest listing (List.cons_ne_nil first (second :: more))
    obtain ⟨rest,whole⟩ := longest.most word leads
    simp only [← whole] at longest ⊢
    cases rest with
    | nil =>
      rw [List.append_nil] at longest
      simp only [List.append_nil,lt_irrefl,if_false]
      exact ⟨fun none => absurd there (none _),fun _ _ => ⟨_,listing,rfl⟩,
        fun _ not => absurd ⟨several,longest⟩ not⟩
    | cons c rest =>
      have longer : word.length < (word ++ c :: rest).length := by simp
      simp only [if_pos longer,List.drop_left]
      refine ⟨fun none => absurd there (none _),fun _ short => ?_,fun _ _ => ⟨c :: rest,longest,rfl⟩⟩
      have same := congrArg List.length (longestUnique short longest)
      omega

theorem resolveSame {word : Text} {offered offered' : List Text}
    (same : ∀ t, Matches word offered t ↔ Matches word offered' t) : resolve word offered = resolve word offered' := by
  have one : matching word offered = matching word offered' := by
    have listing := matchingListing word offered'
    exact listingUnique (matchingListing word offered) ⟨listing.ascending,fun t =>
      (listing.members t).trans (same t).symm⟩
  rw [resolve,resolve,one]

end Completion

namespace Editor
open Buffer Completion
variable {κ : Type}

/-! ## The word and what is before it -/

def wordContext (before : Text) : Text := before.rdropWhile (!isBreak ·)

theorem wordParts (before : Text) : wordContext before ++ lastWord before = before :=
  List.rdropWhile_append_rtakeWhile

theorem lastWordPlain {before : Text} {c : Char} (inside : c ∈ lastWord before) : isBreak c = false := by
  have passed := List.mem_rtakeWhile_imp inside
  simpa using passed

theorem contextEnds {before : Text} {c : Char} (last : c ∈ (wordContext before).getLast?) : isBreak c = true := by
  simpa using Text.cutEnds last

def answered (e : Editor) (before after : Text) : Answer → Outcome × Editor
  | .nothing => (.ignored,e)
  | .insert rest => (.changed,e.withBuffer (parts (before ++ rest) after))
  | .list l => (.candidates l,e)

theorem tabAsks {e : Editor} {before after : Text} (placed : e.buffer = parts before after)
    (content : (Text.openLine before).all (· == ' ') = false) (s : Surroundings κ) (k : κ) :
    e.tab s k =
      let asked := s.completer.complete k (wordContext before) (lastWord before)
      let left := answered e before after (resolve (lastWord before) asked.1)
      some (left.1,left.2,asked.2) := by
  have whole := wordParts before
  have sizes := congrArg Text.size whole
  rw [Text.sizeAppend] at sizes
  have start : Completion.wordStart? (before ++ after) (Text.size before) = some (Text.size (wordContext before)) := by
    simp only [Completion.wordStart?,Text.splitAppend,Option.map_some,Option.some.injEq]
    omega
  have word : Text.slice? (before ++ after) (Text.size (wordContext before)) (Text.size before) =
      some (lastWord before) := by
    have part := Text.sliceAppend (wordContext before) (lastWord before) after
    rwa [whole,sizes] at part
  have context : Text.slice? (before ++ after) 0 (Text.size (wordContext before)) = some (wordContext before) := by
    refine Text.slicePrefix ⟨lastWord before ++ after,?_⟩
    rw [← List.append_assoc,whole]
  simp only [tab,placed,partsText,partsPoint,Text.leadingSpacesAt,content,bind,Option.bind,start,word,context,
    Bool.false_eq_true,if_false]
  cases resolve (lastWord before) (s.completer.complete k (wordContext before) (lastWord before)).1 with
  | nothing => rfl
  | insert rest => simp only [put,placed,insertParts,Option.map_some,answered]
  | list l => rfl

structure Completed (e : Editor) (before after : Text) (fits : Text → Prop) (left : Outcome × Editor) : Prop where
  nothing : (∀ t, ¬ fits t) → left = (.ignored,e)
  listed : Several fits → Longest (lastWord before) fits → ∃ l, Listing l fits ∧ left = (.candidates l,e)
  lengthened : (∃ t, fits t) → ¬ (Several fits ∧ Longest (lastWord before) fits) →
    ∃ lead, Longest lead fits ∧ left = (.changed,e.withBuffer (parts (wordContext before ++ lead) after))

theorem resolvesCompleted (e : Editor) {before : Text} (after : Text) {fits : Text → Prop} {a : Answer}
    (resolves : Resolves (lastWord before) fits a) : Completed e before after fits (answered e before after a) where
  nothing none := by rw [resolves.nothing none,answered]
  listed several longest := by
    obtain ⟨l,listing,rfl⟩ := resolves.listed several longest
    exact ⟨l,listing,rfl⟩
  lengthened some more := by
    obtain ⟨rest,longest,rfl⟩ := resolves.inserted some more
    refine ⟨_,longest,?_⟩
    rw [← List.append_assoc,wordParts,answered]

/- The completer is asked for the word and decides by the set of the matches. What it keeps may be a
record of its questions, so `asked.2` says that there was one and no other. -/
theorem tabCompletes {e : Editor} {before after : Text} (placed : e.buffer = parts before after)
    (content : (Text.openLine before).all (· == ' ') = false) :
    (wordContext before ++ lastWord before = before ∧ (∀ c ∈ lastWord before, isBreak c = false) ∧
      ∀ c ∈ (wordContext before).getLast?, isBreak c = true) ∧
    (∀ {κ : Type} (s : Surroundings κ) (k : κ),
      let asked := s.completer.complete k (wordContext before) (lastWord before)
      ∃ o e', e.tab s k = some (o,e',asked.2) ∧
        Completed e before after (Matches (lastWord before) asked.1) (o,e')) ∧
    ∀ {κ κ' : Type} (s : Surroundings κ) (k : κ) (s' : Surroundings κ') (k' : κ'),
      (∀ t, Matches (lastWord before) (s.completer.complete k (wordContext before) (lastWord before)).1 t ↔
        Matches (lastWord before) (s'.completer.complete k' (wordContext before) (lastWord before)).1 t) →
      (e.tab s k).map (fun (o,e',_) => (o,e')) = (e.tab s' k').map (fun (o,e',_) => (o,e')) := by
  refine ⟨⟨wordParts before,fun _ => lastWordPlain,fun _ => contextEnds⟩,fun s k => ?_,fun s k s' k' same => ?_⟩
  · exact ⟨_,_,tabAsks placed content s k,resolvesCompleted e after (resolveResolves _ _)⟩
  · rw [tabAsks placed content s k,tabAsks placed content s' k']
    simp only [Option.map_some,resolveSame same]

def fields : Surroundings (List (Text × Text)) where
  language := ⟨fun _ => .ok (),fun t _ => .ok t⟩
  entries := []
  completer := ⟨fun asked context word =>
    (["flö","count","flé","flö"].map String.toList,asked ++ [(context,word)])⟩
  bypass := false

def asking : Editor := { buffer := parts "a.fl".toList " + 1".toList }

theorem tabCompletesFields :
    asking.tab fields [] = some (.candidates ["flé".toList,"flö".toList],asking,[("a.".toList,"fl".toList)]) := by
  have offered (t : Text) : t ∈ ["flé".toList,"flö".toList] ↔
      Matches "fl".toList (["flö","count","flé","flö"].map String.toList) t := by
    constructor
    · rw [List.mem_pair]
      rintro (rfl | rfl) <;> exact ⟨by decide,by decide⟩
    · rintro ⟨inside,leads⟩
      simp only [List.map_cons,List.map_nil,List.mem_cons,List.not_mem_nil,or_false] at inside ⊢
      rcases inside with rfl | rfl | rfl | rfl
      · exact .inr rfl
      · exact absurd leads (by decide)
      · exact .inl rfl
      · exact .inr rfl
  have listing : Listing ["flé".toList,"flö".toList] (Matches "fl".toList _) := ⟨by decide,offered⟩
  have several : Several (Matches "fl".toList (["flö","count","flé","flö"].map String.toList)) :=
    ⟨"flé".toList,"flö".toList,(offered _).mp (by decide),(offered _).mp (by decide),by decide⟩
  have longest := listingLongest listing (by decide)
  obtain ⟨-,tabbed,-⟩ := tabCompletes (e := asking) rfl (by decide)
  obtain ⟨o,e',ran,left⟩ := tabbed fields []
  obtain ⟨l,same,found⟩ := left.listed several longest
  cases found
  rw [ran,listingUnique same listing]
  rfl

end Editor

end ScriptConsole
