import ScriptConsole.Console.Render

/-! What is shown of a value, case by case: the resolved body of a literal, JSON on several lines, and
else the value as it came. -/
namespace ScriptConsole.Rendered

def Quoted (value body : Text) : Prop :=
  ∃ mark quote, (mark = [] ∨ mark = ['@']) ∧ (quote = '"' ∨ quote = '\'') ∧
    value = mark ++ quote :: (body ++ [quote])

def escapes : List (Char × Char) :=
  [('\\','\\'),('\'','\''),('"','"'),('b','\x08'),('f','\x0c'),('n','\n'),('r','\r'),('t','\t'),('v','\x0b')]

inductive Resolves : Text → Text → Prop
  | nil : Resolves [] []
  | plain {c rest text} (plain : c ≠ '\\') (tail : Resolves rest text) : Resolves (c :: rest) (c :: text)
  | known {c d rest text} (listed : (c,d) ∈ escapes) (tail : Resolves rest text) :
      Resolves ('\\' :: c :: rest) (d :: text)
  | other {c rest text} (unlisted : ∀ d, (c,d) ∉ escapes) (tail : Resolves rest text) :
      Resolves ('\\' :: c :: rest) ('\\' :: c :: text)
  | last : Resolves ['\\'] ['\\']

def Nested : Json.Value → Prop
  | .array _ | .object _ => True
  | _ => False

inductive Shows (expand pretty : Bool) (value : Text) : Rendered → Prop
  | expanded {body text} (on : expand = true) (quoted : Quoted value body) (resolved : Resolves body text) :
      Shows expand pretty value (.text text)
  | indented {json} (kept : expand = true → ∀ body, ¬ Quoted value body) (on : pretty = true)
      (parsed : Json.parse? value = some json) (nested : Nested json) :
      Shows expand pretty value (.code (Json.pretty 0 json))
  | whole (kept : expand = true → ∀ body, ¬ Quoted value body)
      (flat : pretty = true → ∀ json, Json.parse? value = some json → ¬ Nested json) :
      Shows expand pretty value (.code value)

theorem escapedIff {c d : Char} : escaped? c = some d ↔ (c,d) ∈ escapes := by
  constructor
  · intro known
    unfold escaped? at known
    split at known <;> cases known <;> decide
  · intro listed
    simp only [escapes,List.mem_cons,Prod.mk.injEq,List.not_mem_nil,or_false] at listed
    rcases listed with ⟨rfl,rfl⟩ | ⟨rfl,rfl⟩ | ⟨rfl,rfl⟩ | ⟨rfl,rfl⟩ | ⟨rfl,rfl⟩ | ⟨rfl,rfl⟩ | ⟨rfl,rfl⟩ |
      ⟨rfl,rfl⟩ | ⟨rfl,rfl⟩ <;> rfl

theorem escapedNone {c : Char} (unlisted : ∀ d, (c,d) ∉ escapes) : escaped? c = none :=
  Option.eq_none_iff_forall_ne_some.mpr fun d known => unlisted d (escapedIff.mp known)

theorem resolvesUnescape (body : Text) : Resolves body (unescape body) := by
  induction body using unescape.induct with
  | case1 c rest d known ih =>
    rw [unescape,known]
    exact .known (escapedIff.mp known) ih
  | case2 c rest unknown ih =>
    rw [unescape,unknown]
    refine .other (fun d listed => ?_) ih
    rw [escapedIff.mpr listed] at unknown
    contradiction
  | case3 c rest single ih =>
    rw [unescape]
    · by_cases slash : c = '\\'
      · subst slash
        cases rest with
        | nil => exact .last
        | cons d rest => exact absurd rfl (single d rest rfl)
      · exact .plain slash ih
    · exact single
  | case4 => exact .nil

theorem resolvesOnce {body text : Text} (resolved : Resolves body text) : text = unescape body := by
  induction resolved with
  | nil => rfl
  | plain plain tail ih => rw [ih,unescape]; rintro _ _ rfl; exact absurd rfl plain
  | known listed tail ih => rw [ih,unescape,escapedIff.mpr listed]
  | other unlisted tail ih => rw [ih,unescape,escapedNone unlisted]
  | last => rfl

def Between (value body : Text) : Prop :=
  ∃ quote, (quote = '"' ∨ quote = '\'') ∧ value = quote :: (body ++ [quote])

theorem quotedParts {value body : Text} :
    Quoted value body ↔ Between value body ∨ ∃ rest, value = '@' :: rest ∧ Between rest body := by
  constructor
  · rintro ⟨mark,quote,rfl | rfl,kind,rfl⟩
    · exact .inl ⟨quote,kind,rfl⟩
    · exact .inr ⟨_,rfl,quote,kind,rfl⟩
  · rintro (⟨quote,kind,rfl⟩ | ⟨_,rfl,quote,kind,rfl⟩)
    · exact ⟨[],quote,.inl rfl,kind,rfl⟩
    · exact ⟨['@'],quote,.inr rfl,kind,rfl⟩

theorem betweenUnmarked {rest body : Text} : ¬ Between ('@' :: rest) body := by
  rintro ⟨quote,rfl | rfl,same⟩ <;> exact absurd (List.cons.inj same).1 (by decide)

theorem betweenIff {quote : Char} {rest body : Text} :
    (if (quote = '"' || quote = '\'') && rest.getLast? = some quote then some rest.dropLast else none) =
      some body ↔ Between (quote :: rest) body := by
  constructor
  · intro found
    split at found
    · rename_i quoted
      simp only [Bool.and_eq_true,Bool.or_eq_true,decide_eq_true_eq] at quoted
      obtain ⟨front,rfl⟩ := List.getLast?_eq_some_iff.mp quoted.2
      rw [List.dropLast_concat] at found
      exact ⟨quote,quoted.1,by rw [Option.some.inj found]⟩
    · contradiction
  · rintro ⟨quote',kind,same⟩
    obtain ⟨rfl,rfl⟩ := List.cons.inj same
    have quoted : ((quote = '"' || quote = '\'') && (body ++ [quote]).getLast? = some quote) = true := by
      simp only [Bool.and_eq_true,Bool.or_eq_true,decide_eq_true_eq]
      exact ⟨kind,List.getLast?_concat⟩
    rw [if_pos quoted,List.dropLast_concat]

theorem quotedIff {value body : Text} : literalBody? value = some body ↔ Quoted value body := by
  rw [quotedParts]
  unfold literalBody?
  split
  · rename_i rest
    have marked : Between ('@' :: rest) body ∨ (∃ rest', '@' :: rest = '@' :: rest' ∧ Between rest' body) ↔
        Between rest body := by
      constructor
      · rintro (unmarked | ⟨_,same,between⟩)
        · exact absurd unmarked betweenUnmarked
        · rwa [(List.cons.inj same).2]
      · exact fun between => .inr ⟨rest,rfl,between⟩
    rw [marked]
    cases rest with
    | nil => exact ⟨nofun,fun ⟨_,_,same⟩ => nomatch same⟩
    | cons quote rest => exact betweenIff
  · rename_i plain
    have unmarked : ¬ ∃ rest, value = '@' :: rest ∧ Between rest body := fun ⟨rest,marked,_⟩ => plain rest marked
    rw [or_iff_left unmarked]
    cases value with
    | nil => exact ⟨nofun,fun ⟨_,_,same⟩ => nomatch same⟩
    | cons quote rest => exact betweenIff

theorem prettyIff {value text : Text} :
    prettyJson? value = some text ↔ ∃ json, Json.parse? value = some json ∧ Nested json ∧ text = Json.pretty 0 json := by
  unfold prettyJson?
  cases parsed : Json.parse? value with
  | none => exact ⟨nofun,fun ⟨_,same,_⟩ => nomatch same⟩
  | some json =>
    cases json with
    | array items | object members =>
      constructor
      · exact fun found => ⟨_,rfl,trivial,(Option.some.inj found).symm⟩
      · rintro ⟨_,same,_,rfl⟩
        cases same
        rfl
    | null | bool | integer | double | string =>
      exact ⟨nofun,fun ⟨_,same,nested,_⟩ => by cases same; exact nested.elim⟩

theorem ofValueLiteral {expand : Bool} {value body : Text} (pretty : Bool) (on : expand = true)
    (quoted : Quoted value body) : ofValue expand pretty value = .text (unescape body) := by
  rw [ofValue,if_pos on,literal?,quotedIff.mpr quoted]
  rfl

theorem ofValueKept {expand : Bool} {value : Text} (pretty : Bool)
    (kept : expand = true → ∀ body, ¬ Quoted value body) :
    ofValue expand pretty value = .code ((if pretty then prettyJson? value else none).getD value) := by
  have none : (if expand = true then literal? value else none) = none := by
    split
    · rename_i on
      rw [literal?,Option.map_eq_none_iff]
      exact Option.eq_none_iff_forall_ne_some.mpr fun body found => kept on body (quotedIff.mp found)
    · rfl
  rw [ofValue,none]

theorem showsOnce {expand pretty : Bool} {value : Text} {r : Rendered} (shown : Shows expand pretty value r) :
    ofValue expand pretty value = r := by
  cases shown with
  | expanded on quoted resolved => rw [ofValueLiteral pretty on quoted,resolvesOnce resolved]
  | indented kept on parsed nested =>
    rw [ofValueKept pretty kept,if_pos on,prettyIff.mpr ⟨_,parsed,nested,rfl⟩]
    rfl
  | whole kept flat =>
    have none : (if pretty = true then prettyJson? value else none) = none := by
      split
      · rename_i on
        refine Option.eq_none_iff_forall_ne_some.mpr fun text found => ?_
        obtain ⟨json,parsed,nested,_⟩ := prettyIff.mp found
        exact flat on json parsed nested
      · rfl
    rw [ofValueKept pretty kept,none]
    rfl

theorem showsOfValue (expand pretty : Bool) (value : Text) :
    Shows expand pretty value (ofValue expand pretty value) := by
  by_cases literal : expand = true ∧ ∃ body, Quoted value body
  · obtain ⟨on,body,quoted⟩ := literal
    rw [ofValueLiteral pretty on quoted]
    exact .expanded on quoted (resolvesUnescape body)
  · have kept : expand = true → ∀ body, ¬ Quoted value body := fun on body quoted => literal ⟨on,body,quoted⟩
    by_cases nested : pretty = true ∧ ∃ json, Json.parse? value = some json ∧ Nested json
    · obtain ⟨on,json,parsed,nested⟩ := nested
      have indented := Shows.indented kept on parsed nested
      rwa [showsOnce indented]
    · have whole : Shows expand pretty value (.code value) :=
        .whole kept fun on json parsed deep => nested ⟨on,json,parsed,deep⟩
      rwa [showsOnce whole]

end ScriptConsole.Rendered
