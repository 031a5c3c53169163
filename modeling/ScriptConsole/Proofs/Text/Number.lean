import ScriptConsole.Text.Number

/-! Numbers in decimal digits. What is read is what is written, zeros in front and a plus sign included;
a number that is written reads back as itself. -/
namespace ScriptConsole.Text

structure Digits (t : Text) (n : Nat) : Prop where
  content : t ≠ []
  only : ∀ c ∈ t, c.isDigit = true
  value : Nat.ofDigitChars 10 t 0 = n

def Denotes (t : Text) (n : Nat) : Prop := Digits t n ∨ ∃ digits, t = '+' :: digits ∧ Digits digits n

theorem ofNatDigits (n : Nat) : ofNat n = Nat.toDigits 10 n := Nat.toList_repr

theorem ofNatIsDigit {n : Nat} {c : Char} (inside : c ∈ ofNat n) : c.isDigit = true := by
  rw [ofNatDigits] at inside
  exact Nat.isDigit_of_mem_toDigits (by decide) (by decide) inside

theorem digitOfChar (c : Char) : digit? c = if c.isDigit then some (c.toNat - '0'.toNat) else none := by
  have same : (decide ('0' ≤ c) && decide (c ≤ '9')) = c.isDigit := rfl
  rw [digit?,same]

theorem digitsFromIff {value n : Nat} {t : Text} :
    digitsFrom? value t = some n ↔ (∀ c ∈ t, c.isDigit = true) ∧ Nat.ofDigitChars 10 t value = n := by
  induction t generalizing value with
  | nil => simp [digitsFrom?,Nat.ofDigitChars]
  | cons c rest ih =>
    simp only [digitsFrom?,digitOfChar,bind,List.forall_mem_cons,Nat.ofDigitChars_cons,Nat.mul_comm 10 value]
    by_cases digit : c.isDigit = true
    · simp only [digit,if_true,Option.bind_some,ih,true_and]
    · simp only [digit,if_false,Option.bind_none,reduceCtorEq,false_and,Bool.false_eq_true]

theorem digitsOfNat (n : Nat) : Digits (ofNat n) n where
  content := by rw [ofNatDigits]; exact Nat.toDigits_ne_nil
  only _ := ofNatIsDigit
  value := by rw [ofNatDigits]; exact Nat.ofDigitChars_ten_toDigits

theorem digitsFromOfNat (n : Nat) : digitsFrom? 0 (ofNat n) = some n :=
  digitsFromIff.mpr ⟨(digitsOfNat n).only,(digitsOfNat n).value⟩

theorem denotesChars {t : Text} {n : Nat} (denotes : Denotes t n) {c : Char} (inside : c ∈ t) :
    c = '+' ∨ c.isDigit = true := by
  rcases denotes with digits | ⟨rest,rfl,digits⟩
  · exact .inr (digits.only c inside)
  · exact (List.mem_cons.mp inside).imp_right (digits.only c)

theorem boundedIff {bound n : Nat} {t : Text} :
    (if t.isEmpty then none else (digitsFrom? 0 t).bind fun value => if value ≤ bound then some value else none) =
      some n ↔ Digits t n ∧ n ≤ bound := by
  constructor
  · intro found
    split at found
    · cases found
    · rename_i content
      obtain ⟨value,read,kept⟩ := Option.bind_eq_some_iff.mp found
      split at kept
      · rename_i small
        cases kept
        obtain ⟨only,same⟩ := digitsFromIff.mp read
        exact ⟨⟨fun none => content (List.isEmpty_iff.mpr none),only,same⟩,small⟩
      · cases kept
  · rintro ⟨⟨content,only,value⟩,small⟩
    rw [if_neg (fun none => content (List.isEmpty_iff.mp none)),digitsFromIff.mpr ⟨only,value⟩]
    exact if_pos small

theorem denotesPlus {t : Text} {n : Nat} : Denotes ('+' :: t) n ↔ Digits t n := by
  constructor
  · rintro (signed | ⟨digits,same,found⟩)
    · exact absurd (signed.only '+' List.mem_cons_self) (by decide)
    · cases same
      exact found
  · exact fun digits => .inr ⟨t,rfl,digits⟩

theorem denotesPlain {t : Text} {n : Nat} (plain : ∀ rest, t ≠ '+' :: rest) : Denotes t n ↔ Digits t n := by
  constructor
  · rintro (digits | ⟨rest,same,_⟩)
    · exact digits
    · exact absurd same (plain rest)
  · exact .inl

theorem unsignedIff {bound n : Nat} {t : Text} : unsigned? bound t = some n ↔ Denotes t n ∧ n ≤ bound := by
  unfold unsigned?
  split
  · rw [denotesPlus]
    exact boundedIff
  · rename_i plain
    rw [denotesPlain plain]
    exact boundedIff

end ScriptConsole.Text
