import ScriptConsole.Text.Utf8

/-! What is written as UTF-8 is read back unchanged, whatever bytes follow it. -/
namespace ScriptConsole.Utf8

theorem byteToNat {n : Nat} (h : n < 256) : (UInt8.ofNat n).toNat = n := by
  rw [UInt8.toNat_ofNat']; omega

theorem byteInRange {n : Nat} {low high : UInt8} (h : n < 256) :
    (decide (low ≤ UInt8.ofNat n) && decide (UInt8.ofNat n ≤ high)) =
      decide (low.toNat ≤ n ∧ n ≤ high.toNat) := by
  simp only [UInt8.le_iff_toNat_le,byteToNat h,Bool.decide_and]

theorem byteBelow {n : Nat} {high : UInt8} (h : n < 256) :
    UInt8.ofNat n < high ↔ n < high.toNat := by
  rw [UInt8.lt_iff_toNat_lt,byteToNat h]

theorem byteEq {n : Nat} {k : UInt8} (h : n < 256) : (UInt8.ofNat n == k) = decide (n = k.toNat) := by
  simp only [Bool.beq_eq_decide_eq,← UInt8.toNat_inj,byteToNat h]

theorem tailByte {n : Nat} (h : n < 64) :
    isTail (UInt8.ofNat (n + 0x80)) = true ∧ bits (UInt8.ofNat (n + 0x80)) = n := by
  have value : (UInt8.ofNat (n + 0x80)).toNat = n + 0x80 := byteToNat (by omega)
  refine ⟨?_,by rw [bits,value]; omega⟩
  rw [isTail,byteInRange (by omega)]
  exact decide_eq_true ⟨by show 128 ≤ n + 128; omega,by show n + 128 ≤ 191; omega⟩

/- The second byte rules out a form that is longer than needed and the surrogates. -/
theorem secondThree {a b : Nat} (ha : a < 16) (hb : b < 64) (short : a = 0 → 32 ≤ b)
    (surrogate : a = 13 → b < 32) :
    secondOfThree (UInt8.ofNat (a + 0xE0)) (UInt8.ofNat (b + 0x80)) = true := by
  unfold secondOfThree
  rw [byteEq (by omega),byteEq (by omega),byteInRange (by omega),byteInRange (by omega),(tailByte hb).1]
  simp only [UInt8.reduceToNat,decide_eq_true_eq]
  split
  · exact decide_eq_true (by omega)
  · split
    · exact decide_eq_true (by omega)
    · rfl

theorem secondFour {a b : Nat} (ha : a < 8) (hb : b < 64) (short : a = 0 → 16 ≤ b)
    (top : a = 4 → b < 16) :
    secondOfFour (UInt8.ofNat (a + 0xF0)) (UInt8.ofNat (b + 0x80)) = true := by
  unfold secondOfFour
  rw [byteEq (by omega),byteEq (by omega),byteInRange (by omega),byteInRange (by omega),(tailByte hb).1]
  simp only [UInt8.reduceToNat,decide_eq_true_eq]
  split
  · exact decide_eq_true (by omega)
  · split
    · exact decide_eq_true (by omega)
    · rfl

theorem decodeOne (c : Char) (rest : Bytes) (h : c.toNat ≤ 0x7F) :
    decode (UInt8.ofNat c.toNat :: rest) = some c :: decode rest := by
  have low : UInt8.ofNat c.toNat < 0x80 := (byteBelow (by omega)).mpr (by show _ < 128; omega)
  rw [decode.eq_def]
  simp only [low,if_true,byteToNat (show c.toNat < 256 by omega),Char.ofNat_toNat]

theorem decodeTwo (c : Char) (rest : Bytes) (low : 0x7F < c.toNat) (high : c.toNat ≤ 0x7FF) :
    decode (UInt8.ofNat (c.toNat / 64 % 0x20 + 0xC0) :: UInt8.ofNat (c.toNat % 0x40 + 0x80) :: rest) =
      some c :: decode rest := by
  have bound : c.toNat / 64 % 0x20 + 0xC0 < 256 := by omega
  have notOne : ¬ UInt8.ofNat (c.toNat / 64 % 0x20 + 0xC0) < 0x80 := by
    rw [byteBelow bound]; show ¬ _ < 128; omega
  have whole : (c.toNat / 64 % 0x20 + 0xC0 - 0xC0) * 64 + c.toNat % 0x40 = c.toNat := by omega
  obtain ⟨tail,value⟩ := tailByte (n := c.toNat % 0x40) (by omega)
  rw [decode.eq_def]
  simp only [notOne,if_false,byteInRange bound,UInt8.reduceToNat,decide_eq_true_eq]
  rw [if_pos (by omega)]
  simp only [tail,if_true,value,byteToNat bound,whole,Char.ofNat_toNat]

theorem decodeThree (c : Char) (rest : Bytes) (low : 0x7FF < c.toNat) (high : c.toNat ≤ 0xFFFF) :
    decode (UInt8.ofNat (c.toNat / 4096 % 0x10 + 0xE0) :: UInt8.ofNat (c.toNat / 64 % 0x40 + 0x80) ::
      UInt8.ofNat (c.toNat % 0x40 + 0x80) :: rest) = some c :: decode rest := by
  have valid : c.toNat < 0xD800 ∨ 0xDFFF < c.toNat ∧ c.toNat < 0x110000 := c.valid
  have bound : c.toNat / 4096 % 0x10 + 0xE0 < 256 := by omega
  have notOne : ¬ UInt8.ofNat (c.toNat / 4096 % 0x10 + 0xE0) < 0x80 := by
    rw [byteBelow bound]; show ¬ _ < 128; omega
  have whole : ((c.toNat / 4096 % 0x10 + 0xE0 - 0xE0) * 64 + c.toNat / 64 % 0x40) * 64 +
      c.toNat % 0x40 = c.toNat := by omega
  have second : secondOfThree (UInt8.ofNat (c.toNat / 4096 % 0x10 + 0xE0))
      (UInt8.ofNat (c.toNat / 64 % 0x40 + 0x80)) = true :=
    secondThree (by omega) (by omega) (by omega) (by omega)
  obtain ⟨_,value⟩ := tailByte (n := c.toNat / 64 % 0x40) (by omega)
  obtain ⟨tail,last⟩ := tailByte (n := c.toNat % 0x40) (by omega)
  rw [decode.eq_def]
  simp only [notOne,if_false,byteInRange bound,UInt8.reduceToNat,decide_eq_true_eq]
  rw [if_neg (by omega),if_pos (by omega)]
  simp only [second,tail,if_true,value,last,byteToNat bound,whole,Char.ofNat_toNat]

theorem decodeFour (c : Char) (rest : Bytes) (low : 0xFFFF < c.toNat) :
    decode (UInt8.ofNat (c.toNat / 262144 % 0x08 + 0xF0) ::
      UInt8.ofNat (c.toNat / 4096 % 0x40 + 0x80) :: UInt8.ofNat (c.toNat / 64 % 0x40 + 0x80) ::
      UInt8.ofNat (c.toNat % 0x40 + 0x80) :: rest) = some c :: decode rest := by
  have valid : c.toNat < 0xD800 ∨ 0xDFFF < c.toNat ∧ c.toNat < 0x110000 := c.valid
  have bound : c.toNat / 262144 % 0x08 + 0xF0 < 256 := by omega
  have notOne : ¬ UInt8.ofNat (c.toNat / 262144 % 0x08 + 0xF0) < 0x80 := by
    rw [byteBelow bound]; show ¬ _ < 128; omega
  have whole : (((c.toNat / 262144 % 0x08 + 0xF0 - 0xF0) * 64 + c.toNat / 4096 % 0x40) * 64 +
      c.toNat / 64 % 0x40) * 64 + c.toNat % 0x40 = c.toNat := by omega
  have second : secondOfFour (UInt8.ofNat (c.toNat / 262144 % 0x08 + 0xF0))
      (UInt8.ofNat (c.toNat / 4096 % 0x40 + 0x80)) = true :=
    secondFour (by omega) (by omega) (by omega) (by omega)
  obtain ⟨_,second'⟩ := tailByte (n := c.toNat / 4096 % 0x40) (by omega)
  obtain ⟨third,third'⟩ := tailByte (n := c.toNat / 64 % 0x40) (by omega)
  obtain ⟨tail,last⟩ := tailByte (n := c.toNat % 0x40) (by omega)
  rw [decode.eq_def]
  simp only [notOne,if_false,byteInRange bound,UInt8.reduceToNat,decide_eq_true_eq]
  rw [if_neg (by omega),if_neg (by omega),if_pos (by omega)]
  simp only [second,third,tail,if_true,second',third',last,byteToNat bound,whole,Char.ofNat_toNat]

theorem decodeChar (c : Char) (rest : Bytes) :
    decode (String.utf8EncodeChar c ++ rest) = some c :: decode rest := by
  have same : c.val.toNat = c.toNat := rfl
  unfold String.utf8EncodeChar
  simp only [same]
  split
  · exact decodeOne c rest ‹_›
  · split
    · exact decodeTwo c rest (by omega) ‹_›
    · split
      · exact decodeThree c rest (by omega) ‹_›
      · exact decodeFour c rest (by omega)

theorem decodeEncode (t : Text) (rest : Bytes) :
    decode (encode t ++ rest) = t.map some ++ decode rest := by
  induction t with
  | nil => rfl
  | cons c t ih =>
    simp only [encode,List.flatMap_cons,List.append_assoc] at ih ⊢
    rw [decodeChar,ih]
    rfl

theorem decodeLossyEncode (t : Text) : decodeLossy (encode t) = t := by
  have whole := decodeEncode t []
  rw [List.append_nil] at whole
  rw [decodeLossy,whole,decode.eq_def []]
  simp [Function.comp_def]

end ScriptConsole.Utf8
