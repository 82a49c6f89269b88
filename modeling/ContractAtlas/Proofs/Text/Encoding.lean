import ContractAtlas.Text.Octets

/-!
Reading what was written as UTF-8. The octets of a character are read as that character, whatever stands
behind them (`decodeUtf8_utf8EncodeChar`), so that a text is read back from its octets
(`decodeUtf8_encode`).
-/
namespace ContractAtlas.Text
set_option autoImplicit false

/-! ## Forms of octets -/

variable {surrogates : Bool} {pos : Nat} {a b c d : UInt8} {rest : List UInt8}

theorem isContinuation_iff : isContinuation b = true ↔ 0x80 ≤ b.toNat ∧ b.toNat < 0xC0 := by
  simp [isContinuation, UInt8.le_iff_toNat_le, UInt8.lt_iff_toNat_lt]

theorem decodeUtf8_one (ha : a.toNat < 0x80) :
    decodeUtf8 surrogates pos (a :: rest) =
      (charOf a.toNat :: ·) <$> decodeUtf8 surrogates (pos + 1) rest := by
  have h80 : a < 0x80 := UInt8.lt_iff_toNat_lt.mpr ha
  rw [decodeUtf8.eq_def]
  exact if_pos h80

theorem decodeUtf8_two (ha : 0xC2 ≤ a.toNat ∧ a.toNat < 0xE0) (hb : isContinuation b = true) :
    decodeUtf8 surrogates pos (a :: b :: rest) =
      (charOf (a.toNat % 32 * 64 + bits6 b) :: ·) <$> decodeUtf8 surrogates (pos + 2) rest := by
  have h80 : ¬a < 0x80 := by simp [UInt8.lt_iff_toNat_lt]; omega
  have hC2 : ¬a < 0xC2 := by simp [UInt8.lt_iff_toNat_lt]; omega
  have hE0 : a < 0xE0 := UInt8.lt_iff_toNat_lt.mpr ha.2
  rw [decodeUtf8.eq_def]
  dsimp only
  rw [if_neg h80, if_neg hC2, if_pos hE0, if_pos hb]

theorem decodeUtf8_three (ha : 0xE0 ≤ a.toNat ∧ a.toNat < 0xF0) (hb : isSecondOfThree a b = true)
    (hc : isContinuation c = true) :
    decodeUtf8 surrogates pos (a :: b :: c :: rest) =
      (charOf (a.toNat % 16 * 4096 + bits6 b * 64 + bits6 c) :: ·) <$>
        decodeUtf8 surrogates (pos + 3) rest := by
  have h80 : ¬a < 0x80 := by simp [UInt8.lt_iff_toNat_lt]; omega
  have hC2 : ¬a < 0xC2 := by simp [UInt8.lt_iff_toNat_lt]; omega
  have hE0 : ¬a < 0xE0 := by simp [UInt8.lt_iff_toNat_lt]; omega
  have hF0 : a < 0xF0 := UInt8.lt_iff_toNat_lt.mpr ha.2
  rw [decodeUtf8.eq_def]
  dsimp only
  rw [if_neg h80, if_neg hC2, if_neg hE0, if_pos hF0, if_pos hb, if_pos hc]

theorem decodeUtf8_four (ha : 0xF0 ≤ a.toNat ∧ a.toNat < 0xF5) (hb : isSecondOfFour a b = true)
    (hc : isContinuation c = true) (hd : isContinuation d = true) :
    decodeUtf8 surrogates pos (a :: b :: c :: d :: rest) =
      (charOf (a.toNat % 8 * 262144 + bits6 b * 4096 + bits6 c * 64 + bits6 d) :: ·) <$>
        decodeUtf8 surrogates (pos + 4) rest := by
  have h80 : ¬a < 0x80 := by simp [UInt8.lt_iff_toNat_lt]; omega
  have hC2 : ¬a < 0xC2 := by simp [UInt8.lt_iff_toNat_lt]; omega
  have hE0 : ¬a < 0xE0 := by simp [UInt8.lt_iff_toNat_lt]; omega
  have hF0 : ¬a < 0xF0 := by simp [UInt8.lt_iff_toNat_lt]; omega
  have hF5 : a < 0xF5 := UInt8.lt_iff_toNat_lt.mpr ha.2
  rw [decodeUtf8.eq_def]
  dsimp only
  rw [if_neg h80, if_neg hC2, if_neg hE0, if_neg hF0, if_pos hF5, if_pos hb, if_pos hc, if_pos hd]

/-! ## Characters -/

theorem charOf_toNat (c : Char) : charOf c.toNat = c := by
  have hvalid : c.toNat.isValidChar := c.valid
  rw [charOf, if_pos hvalid, Char.ofNat_toNat]

theorem toNat_ofNat_of_lt {n : Nat} (h : n < 256) : (UInt8.ofNat n).toNat = n := by
  rw [UInt8.toNat_ofNat']
  omega

theorem isContinuation_ofNat (n : Nat) : isContinuation (UInt8.ofNat (n % 64 + 128)) = true := by
  rw [isContinuation_iff, toNat_ofNat_of_lt (by omega)]
  omega

theorem bits6_ofNat (n : Nat) : bits6 (UInt8.ofNat (n % 64 + 128)) = n % 64 := by
  rw [bits6, toNat_ofNat_of_lt (by omega)]
  omega

/-- The octets of a character are read as that character. -/
theorem decodeUtf8_utf8EncodeChar (c : Char) (rest : List UInt8) (pos : Nat) :
    decodeUtf8 surrogates pos (String.utf8EncodeChar c ++ rest) =
      (c :: ·) <$> decodeUtf8 surrogates (pos + (String.utf8EncodeChar c).length) rest := by
  have hvalid : c.toNat < 0xD800 ∨ 0xDFFF < c.toNat ∧ c.toNat < 0x110000 := c.valid
  have hval : c.val.toNat = c.toNat := rfl
  rw [String.utf8EncodeChar]
  simp only [hval]
  split
  case isTrue h1 =>
    have ha := toNat_ofNat_of_lt (n := c.toNat) (by omega)
    rw [List.singleton_append, decodeUtf8_one (by omega), ha, charOf_toNat]
    rfl
  case isFalse h1 =>
    split
    case isTrue h2 =>
      have ha := toNat_ofNat_of_lt (n := c.toNat / 64 % 0x20 + 0xc0) (by omega)
      have hsum : (c.toNat / 64 % 0x20 + 0xc0) % 32 * 64 + c.toNat % 64 = c.toNat := by omega
      rw [List.cons_append, List.singleton_append,
        decodeUtf8_two (by omega) (isContinuation_ofNat _), ha, bits6_ofNat, hsum, charOf_toNat]
      rfl
    case isFalse h2 =>
      split
      case isTrue h3 =>
        have ha := toNat_ofNat_of_lt (n := c.toNat / 4096 % 0x10 + 0xe0) (by omega)
        have hsecond : isSecondOfThree (UInt8.ofNat (c.toNat / 4096 % 0x10 + 0xe0))
            (UInt8.ofNat (c.toNat / 64 % 64 + 128)) = true := by
          rw [isSecondOfThree, isContinuation_ofNat]
          simp [UInt8.le_iff_toNat_le, UInt8.lt_iff_toNat_lt, ← UInt8.toNat_inj]
          omega
        have hsum : (c.toNat / 4096 % 0x10 + 0xe0) % 16 * 4096 + c.toNat / 64 % 64 * 64 +
            c.toNat % 64 = c.toNat := by omega
        rw [List.cons_append, List.cons_append, List.singleton_append,
          decodeUtf8_three (by omega) hsecond (isContinuation_ofNat _), ha, bits6_ofNat, bits6_ofNat,
          hsum, charOf_toNat]
        rfl
      case isFalse h3 =>
        have ha := toNat_ofNat_of_lt (n := c.toNat / 262144 % 0x08 + 0xf0) (by omega)
        have hsecond : isSecondOfFour (UInt8.ofNat (c.toNat / 262144 % 0x08 + 0xf0))
            (UInt8.ofNat (c.toNat / 4096 % 64 + 128)) = true := by
          rw [isSecondOfFour, isContinuation_ofNat]
          simp [UInt8.le_iff_toNat_le, UInt8.lt_iff_toNat_lt, ← UInt8.toNat_inj]
          omega
        have hsum : (c.toNat / 262144 % 0x08 + 0xf0) % 8 * 262144 + c.toNat / 4096 % 64 * 4096 +
            c.toNat / 64 % 64 * 64 + c.toNat % 64 = c.toNat := by omega
        rw [List.cons_append, List.cons_append, List.cons_append, List.singleton_append,
          decodeUtf8_four (by omega) hsecond (isContinuation_ofNat _) (isContinuation_ofNat _), ha,
          bits6_ofNat, bits6_ofNat, bits6_ofNat, hsum, charOf_toNat]
        rfl

/-! ## Texts -/

theorem decodeUtf8_flatMap (cs : List Char) (pos : Nat) :
    decodeUtf8 surrogates pos (cs.flatMap String.utf8EncodeChar) = .ok cs := by
  induction cs generalizing pos with
  | nil => rfl
  | cons c cs ih =>
    rw [List.flatMap_cons, decodeUtf8_utf8EncodeChar, ih]
    rfl

theorem toList_loop (octets : ByteArray) (i : Nat) (done : List UInt8) :
    ByteArray.toList.loop octets i done = done.reverse ++ octets.data.toList.drop i := by
  fun_induction ByteArray.toList.loop octets i done with
  | case1 i done hin ih =>
    have hi : i < octets.data.toList.length := by simpa using hin
    have hoctet : octets.get! i = octets.data.toList[i] := by simp [ByteArray.get!, hin]
    rw [ih, List.drop_eq_getElem_cons hi, List.reverse_cons, hoctet, List.append_assoc]
    rfl
  | case2 i done hout =>
    have hend : octets.data.toList.length ≤ i := by simpa using hout
    rw [List.drop_eq_nil_of_le hend, List.append_nil]

theorem encode_eq (s : String) : encode s = s.toList.flatMap String.utf8EncodeChar := by
  rw [encode, ByteArray.toList, toList_loop, String.toUTF8_eq_toByteArray, ← String.utf8Encode_toList,
    List.utf8Encode, List.toList_data_toByteArray]
  rfl

/-- A text is read back from its octets. -/
theorem decodeUtf8_encode (s : String) (pos : Nat) :
    decodeUtf8 surrogates pos (encode s) = .ok s.toList := by
  rw [encode_eq, decodeUtf8_flatMap]

end ContractAtlas.Text
