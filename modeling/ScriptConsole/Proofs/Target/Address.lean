import ScriptConsole.Target.Address
import ScriptConsole.Proofs.Text.Number
import ScriptConsole.Proofs.Text.Offset

/-! Addresses as they are written. A text that starts like a socket is one, whatever follows; any other is
cut at its last colon, and what follows that colon has to be a port. So a host may hold colons, and no
host that was read looks like a socket when it is printed. -/
namespace ScriptConsole.Address
open Text (Denotes denotesChars unsignedIff digitsOfNat dropLeadIff)

inductive Spells : Text → Address → Prop
  | socket (path) : Spells (socketLead ++ path) (.socket path)
  | tcp {host port n} (other : ¬ socketLead <+: host ++ ':' :: port) (number : Denotes port n)
      (small : n ≤ 65535) : Spells (host ++ ':' :: port) (.tcp host n)

theorem lastColonAt {host port : Text} (last : ':' ∉ port) :
    splitLastColon? (host ++ ':' :: port) = some (host,port) := by
  have passed : ∀ c ∈ port.reverse, (c != ':') = true := fun c inside =>
    bne_iff_ne.mpr fun same => last (List.mem_reverse.mp (same ▸ inside))
  have back : (host ++ ':' :: port).reverse = port.reverse ++ ':' :: host.reverse := by simp
  rw [splitLastColon?,back,List.dropWhile_append_of_pos passed,List.takeWhile_append_of_pos passed]
  simp

theorem lastColonSound {t host port : Text} (found : splitLastColon? t = some (host,port)) :
    t = host ++ ':' :: port := by
  have whole := List.takeWhile_append_dropWhile (p := (· != ':')) (l := t.reverse)
  have first := List.head?_dropWhile_not (· != ':') t.reverse
  rw [splitLastColon?] at found
  split at found
  · rename_i c before rest
    rw [rest] at whole first
    obtain rfl : c = ':' := by simpa using first
    cases found
    have back := congrArg List.reverse whole
    simpa using back.symm
  · cases found

theorem portLast {port : Text} {n : Nat} (number : Denotes port n) : ':' ∉ port := by
  intro inside
  rcases denotesChars number inside with plus | digit
  · exact absurd plus (by decide)
  · exact absurd digit (by decide)

theorem parseIff {t : Text} {a : Address} : parse t = .ok a ↔ Spells t a := by
  constructor
  · intro accepted
    rw [parse] at accepted
    split at accepted
    · rename_i path lead
      cases accepted
      rw [dropLeadIff.mp lead]
      exact .socket path
    · rename_i other
      split at accepted
      · cases accepted
      · rename_i host port colon
        split at accepted
        · rename_i n read
          cases accepted
          obtain rfl := lastColonSound colon
          obtain ⟨number,small⟩ := unsignedIff.mp read
          refine .tcp ?_ number small
          rintro ⟨rest,whole⟩
          rw [dropLeadIff.mpr whole.symm] at other
          cases other
        · cases accepted
  · intro spells
    cases spells with
    | socket path =>
      have lead : Text.dropLead? (socketLead ++ path) socketLead = some path := dropLeadIff.mpr rfl
      rw [parse,lead]
    | @tcp host port n other number small =>
      have lead : Text.dropLead? (host ++ ':' :: port) socketLead = none := by
        refine Option.eq_none_iff_forall_ne_some.mpr fun path found => other ?_
        exact ⟨path,(dropLeadIff.mp found).symm⟩
      simp only [parse,lead,lastColonAt (portLast number),unsignedIff.mpr ⟨number,small⟩]

theorem leadWithin {front host rest : Text} {sep : Char} (fresh : sep ∉ front)
    (lead : front ++ [sep] <+: host ++ sep :: rest) : front ++ [sep] <+: host ++ [sep] := by
  have cut : host ++ [sep] <+: host ++ sep :: rest := ⟨rest,by simp⟩
  rcases List.prefix_or_prefix_of_prefix lead cut with within | ⟨tail,beyond⟩
  · exact within
  · rcases List.eq_nil_or_concat tail with rfl | ⟨more,c,rfl⟩
    · rw [List.append_nil] at beyond
      exact ⟨[],by rw [List.append_nil,beyond]⟩
    · rw [List.concat_eq_append,← List.append_assoc] at beyond
      have inside : sep ∈ front := by
        rw [← (List.append_inj' beyond rfl).1]
        simp
      exact absurd inside fresh

theorem leadKept {host port port' : Text} (other : ¬ socketLead <+: host ++ ':' :: port) :
    ¬ socketLead <+: host ++ ':' :: port' := by
  intro lead
  have parts : socketLead = "unix".toList ++ [':'] := rfl
  have within : socketLead <+: host ++ [':'] := by
    rw [parts] at lead ⊢
    exact leadWithin (by decide) lead
  exact other (within.trans ⟨port,by simp⟩)

theorem renderSpells {t : Text} {a : Address} (spells : Spells t a) : Spells a.render a := by
  cases spells with
  | socket path => exact .socket path
  | tcp other number small => exact .tcp (leadKept other) (.inl (digitsOfNat _)) small

theorem printedParses (spec : Text) :
    (∀ a, parse spec = .ok a ↔ Spells spec a) ∧
      (∀ a, parse spec = .ok a → parse a.render = .ok a) ∧
      ((∃ e, parse spec = .error e) ↔ ¬ socketLead <+: spec ∧
        ¬ ∃ host port n, spec = host ++ ':' :: port ∧ Denotes port n ∧ n ≤ 65535) := by
  refine ⟨fun a => parseIff,fun a accepted => parseIff.mpr (renderSpells (parseIff.mp accepted)),?_⟩
  constructor
  · rintro ⟨e,rejected⟩
    have none : ∀ a, ¬ Spells spec a := fun a spells => by
      rw [parseIff.mpr spells] at rejected
      cases rejected
    have other : ¬ socketLead <+: spec := by
      rintro ⟨path,rfl⟩
      exact none _ (.socket path)
    refine ⟨other,?_⟩
    rintro ⟨host,port,n,rfl,number,small⟩
    exact none _ (.tcp other number small)
  · rintro ⟨other,unported⟩
    cases answer : parse spec with
    | error e => exact ⟨e,rfl⟩
    | ok a =>
      cases parseIff.mp answer with
      | socket path => exact absurd (List.prefix_append socketLead path) other
      | tcp _ number small => exact absurd ⟨_,_,_,rfl,number,small⟩ unported

theorem printedParsesSigned :
    parse "fe80::1:+0080".toList = .ok (.tcp "fe80::1".toList 80) ∧
      parse (render (.tcp "fe80::1".toList 80)) = .ok (.tcp "fe80::1".toList 80) := by
  have accepted : parse "fe80::1:+0080".toList = .ok (.tcp "fe80::1".toList 80) := by rfl
  exact ⟨accepted,(printedParses "fe80::1:+0080".toList).2.1 _ accepted⟩

end ScriptConsole.Address
