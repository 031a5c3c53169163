import Mathlib.Data.List.DropRight
import ScriptConsole.Text.Class

/-! Blanks: no word holds one, and a trimmed text is what stands before the blanks at the end. -/
namespace ScriptConsole.Text

def blankCodes : List Nat :=
  [9,10,11,12,13,0x20,0x85,0xA0,0x1680,0x2000,0x2001,0x2002,0x2003,0x2004,0x2005,0x2006,0x2007,
   0x2008,0x2009,0x200A,0x2028,0x2029,0x202F,0x205F,0x3000]

theorem blankCode {c : Char} (blank : isBlank c = true) : c.toNat ∈ blankCodes := by
  simp only [isBlank,Bool.or_eq_true,Bool.and_eq_true,decide_eq_true_eq,beq_iff_eq,UInt32.le_iff_toNat_le,
    ← UInt32.toNat_inj] at blank
  have code : c.val.toNat = c.toNat := rfl
  simp only [code] at blank
  simp [blankCodes]
  simp at blank
  omega

theorem blankNotWord {c : Char} (blank : isBlank c = true) : isWord c = false := by
  have none : blankCodes.all (fun n => !isWord (Char.ofNat n)) = true := by
    decide +kernel
  have found := List.all_eq_true.mp none _ (blankCode blank)
  simpa using found

theorem blankNot {c d : Char} (blank : isBlank c = true) (other : isBlank d = false) : c ≠ d := by
  rintro rfl
  simp [blank] at other

theorem wordNot {c d : Char} (word : isWord c = true) (other : isWord d = false) : c ≠ d := by
  rintro rfl
  simp [word] at other

theorem wordNotBlank {c : Char} (word : isWord c = true) : isBlank c = false := by
  cases blank : isBlank c with
  | false => rfl
  | true => simp [blankNotWord blank] at word

theorem digitWord {c : Char} (digit : c.isDigit = true) : isWord c = true := by
  have small : c.val < 0x80 := by
    simp [Char.isDigit,UInt32.le_iff_toNat_le,UInt32.lt_iff_toNat_lt] at digit ⊢
    omega
  simp [isWord,isAlphanumeric,small,Char.isAlphanum,digit]

/-! ## Trimming -/

def blankTail (t : Text) : Text := (t.reverse.takeWhile isBlank).reverse

theorem trimEndParts (t : Text) : t = trimEnd t ++ blankTail t :=
  (List.rdropWhile_append_rtakeWhile (p := isBlank)).symm

theorem blankTailBlank (t : Text) : (blankTail t).all isBlank = true := by
  rw [blankTail,List.all_reverse]
  exact List.all_takeWhile

theorem trimEndKeeps (pre : Text) {c : Char} (content : isBlank c = false) (post : Text) :
    ∃ kept, trimEnd (pre ++ c :: post) = pre ++ c :: kept := by
  have stops : (post.reverse ++ c :: pre.reverse).dropWhile isBlank =
      post.reverse.dropWhile isBlank ++ c :: pre.reverse := by
    induction post.reverse with
    | nil => simp [content]
    | cons d rest ih => cases blank : isBlank d <;> simp [blank,ih]
  refine ⟨(post.reverse.dropWhile isBlank).reverse,?_⟩
  simp [trimEnd,stops]

end ScriptConsole.Text
