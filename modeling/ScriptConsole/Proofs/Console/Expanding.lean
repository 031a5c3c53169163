import Mathlib.Tactic.SplitIfs
import ScriptConsole.Console.Render

/-! Expanding a quoted text. Every escape of two characters is resolved again, also where what follows
looks like a part of it. A control character that is quoted by its number stays as it was written, as
that escape is not among those resolved. -/
namespace ScriptConsole.Rendered

def shortControls : List Char := ['\x08','\t','\n','\x0c','\r']

def Numbered (c : Char) : Prop := c.val < 0x20 ∧ c ∉ shortControls

instance (c : Char) : Decidable (Numbered c) := inferInstanceAs (Decidable (_ ∧ _))

def kept (c : Char) : Text := if Numbered c then Json.quoteChar c else [c]

theorem unescapePlain {c : Char} (plain : c ≠ '\\') (rest : Text) : unescape (c :: rest) = c :: unescape rest := by
  rw [unescape]
  rintro _ _ rfl
  exact absurd rfl plain

theorem unescapeKnown {c d : Char} (known : escaped? c = some d) (rest : Text) :
    unescape ('\\' :: c :: rest) = d :: unescape rest := by
  rw [unescape,known]

theorem unescapeOther {c : Char} (unknown : escaped? c = none) (rest : Text) :
    unescape ('\\' :: c :: rest) = '\\' :: c :: unescape rest := by
  rw [unescape,unknown]

theorem hexDigitPlain {n : Nat} (small : n < 16) : Json.hexDigit n ≠ '\\' := by
  have each : ∀ n < 16, Json.hexDigit n ≠ '\\' := by decide
  exact each n small

theorem quoteNumbered {c : Char} (numbered : Numbered c) :
    Json.quoteChar c = ['\\','u','0','0',Json.hexDigit (c.toNat / 16),Json.hexDigit (c.toNat % 16)] := by
  obtain ⟨control,long⟩ := numbered
  simp only [shortControls,List.mem_cons,List.not_mem_nil,or_false,not_or] at long
  obtain ⟨back,tab,newline,feed,return'⟩ := long
  have quote : c ≠ '"' := by rintro rfl; exact absurd control (by decide)
  have slash : c ≠ '\\' := by rintro rfl; exact absurd control (by decide)
  simp only [Json.quoteChar,if_neg quote,if_neg slash,if_neg newline,if_neg return',if_neg tab,
    if_neg back,if_neg feed,if_pos control]

theorem unescapeNumbered {c : Char} (numbered : Numbered c) (rest : Text) :
    unescape (Json.quoteChar c ++ rest) = Json.quoteChar c ++ unescape rest := by
  have high : c.toNat / 16 < 16 := by
    have control : c.toNat < 32 := numbered.1
    omega
  have low : c.toNat % 16 < 16 := Nat.mod_lt _ (by decide)
  rw [quoteNumbered numbered]
  simp only [List.cons_append,List.nil_append]
  rw [unescapeOther rfl,unescapePlain (by decide),unescapePlain (by decide),
    unescapePlain (hexDigitPlain high),unescapePlain (hexDigitPlain low)]

theorem unescapeQuoted (c : Char) (rest : Text) : unescape (Json.quoteChar c ++ rest) = kept c ++ unescape rest := by
  by_cases numbered : Numbered c
  · rw [kept,if_pos numbered,unescapeNumbered numbered]
  · rw [kept,if_neg numbered,Json.quoteChar]
    split_ifs with quote slash newline return' tab back feed control
    · subst quote; exact unescapeKnown rfl rest
    · subst slash; exact unescapeKnown rfl rest
    · subst newline; exact unescapeKnown rfl rest
    · subst return'; exact unescapeKnown rfl rest
    · subst tab; exact unescapeKnown rfl rest
    · subst back; exact unescapeKnown rfl rest
    · subst feed; exact unescapeKnown rfl rest
    · refine absurd ⟨control,?_⟩ numbered
      simp [shortControls,newline,return',tab,back,feed]
    · exact unescapePlain slash rest

theorem unescapeBody (s : Text) : unescape (s.flatMap Json.quoteChar) = s.flatMap kept := by
  induction s with
  | nil => rfl
  | cons c rest ih => rw [List.flatMap_cons,unescapeQuoted,ih,List.flatMap_cons]

theorem quotedBody (s : Text) : literalBody? (Json.quote s) = some (s.flatMap Json.quoteChar) := by
  simp [literalBody?,Json.quote]

theorem keptLength (c : Char) : (kept c).length = if Numbered c then 6 else 1 := by
  rw [kept]
  split
  · rename_i numbered
    rw [quoteNumbered numbered]
    rfl
  · rfl

theorem keptLonger (s : Text) : s.length ≤ (s.flatMap kept).length := by
  induction s with
  | nil => exact Nat.zero_le _
  | cons c rest ih =>
    have one : 1 ≤ (kept c).length := by rw [keptLength]; split <;> decide
    rw [List.flatMap_cons,List.length_append,List.length_cons]
    omega

theorem keptIff (s : Text) : s.flatMap kept = s ↔ ∀ c ∈ s, ¬ Numbered c := by
  induction s with
  | nil => exact ⟨fun _ => nofun,fun _ => rfl⟩
  | cons c rest ih =>
    rw [List.flatMap_cons,List.forall_mem_cons,← ih]
    constructor
    · intro same
      have plain : ¬ Numbered c := by
        intro numbered
        -- six characters for one, and the rest does not get shorter
        have lengths := congrArg List.length same
        have longer := keptLonger rest
        rw [List.length_append,keptLength,if_pos numbered,List.length_cons] at lengths
        omega
      rw [kept,if_neg plain] at same
      exact ⟨plain,List.tail_eq_of_cons_eq same⟩
    · rintro ⟨plain,same⟩
      rw [same,kept,if_neg plain]
      rfl

/- A quoted text always expands, and to itself just where no character of it was quoted by its number. -/
theorem quotedExpands (s : Text) :
    literal? (Json.quote s) = some (s.flatMap kept) ∧
      (literal? (Json.quote s) = some s ↔ ∀ c ∈ s, c.val < 0x20 → c ∈ ['\x08','\t','\n','\x0c','\r']) := by
  have whole : literal? (Json.quote s) = some (s.flatMap kept) := by
    rw [literal?,quotedBody,Option.map_some,unescapeBody]
  refine ⟨whole,?_⟩
  rw [whole,Option.some_inj,keptIff]
  simp only [Numbered,shortControls,not_and,Decidable.not_not]

end ScriptConsole.Rendered
