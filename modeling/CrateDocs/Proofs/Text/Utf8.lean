import CrateDocs.Text.Utf8

namespace CrateDocs.Text.Utf8

variable {n : Nat} {r : List UInt8}

theorem toNat_ofNat (h : n < 256) : (UInt8.ofNat n).toNat = n := by
  rw [UInt8.toNat_ofNat']
  exact Nat.mod_eq_of_lt h

theorem toNat_tail (m : Nat) : (UInt8.ofNat (0x80 + m % 64)).toNat = 0x80 + m % 64 :=
  toNat_ofNat (by omega)

theorem isTail_tail (m : Nat) : isTail (UInt8.ofNat (0x80 + m % 64)) = true := by
  simp only [isTail, toNat_tail, Bool.and_eq_true, decide_eq_true_eq]
  omega

theorem bits_tail (m : Nat) : bits (UInt8.ofNat (0x80 + m % 64)) = m % 64 := by
  rw [bits, toNat_tail]
  omega

theorem isSecond_tail {m : Nat} (h₁ : n = 0xE0 → 0x20 ≤ m % 64) (h₂ : n = 0xED → m % 64 < 0x20)
    (h₃ : n = 0xF0 → 0x10 ≤ m % 64) (h₄ : n = 0xF4 → m % 64 < 0x10) :
    isSecond n (UInt8.ofNat (0x80 + m % 64)) = true := by
  simp only [isSecond, isTail_tail, toNat_tail, Bool.true_and, Bool.and_eq_true,
    Bool.not_eq_true', Bool.and_eq_false_iff, beq_eq_false_iff_ne, decide_eq_false_iff_not]
  omega

theorem head_one (h : n < 0x80) : head (UInt8.ofNat n) r = .char (Char.ofNat n) r := by
  have hb : (UInt8.ofNat n).toNat = n := toNat_ofNat (by omega)
  simp only [head, hb, if_pos h]

theorem head_two (h₁ : 0x80 ≤ n) (h₂ : n < 0x800) :
    head (UInt8.ofNat (0xC0 + n / 64)) (UInt8.ofNat (0x80 + n % 64) :: r) =
      .char (Char.ofNat n) r := by
  have hb : (UInt8.ofNat (0xC0 + n / 64)).toNat = 0xC0 + n / 64 := toNat_ofNat (by omega)
  have hsecond : isSecond (0xC0 + n / 64) (UInt8.ofNat (0x80 + n % 64)) = true :=
    isSecond_tail (by omega) (by omega) (by omega) (by omega)
  have hn : (0xC0 + n / 64 - 0xC0) * 64 + n % 64 = n := by omega
  simp only [head, hb, hsecond, bits_tail, hn]
  rw [if_neg (by omega), if_neg (by omega), if_neg (by decide), if_pos (by omega)]

theorem head_three (h₁ : 0x800 ≤ n) (h₂ : n < 0x10000) (hv : n < 0xD800 ∨ 0xDFFF < n) :
    head (UInt8.ofNat (0xE0 + n / 4096))
      (UInt8.ofNat (0x80 + n / 64 % 64) :: UInt8.ofNat (0x80 + n % 64) :: r) =
        .char (Char.ofNat n) r := by
  have hb : (UInt8.ofNat (0xE0 + n / 4096)).toNat = 0xE0 + n / 4096 := toNat_ofNat (by omega)
  have hsecond : isSecond (0xE0 + n / 4096) (UInt8.ofNat (0x80 + n / 64 % 64)) = true :=
    isSecond_tail (by omega) (by omega) (by omega) (by omega)
  have hn : (0xE0 + n / 4096 - 0xE0) * 4096 + n / 64 % 64 * 64 + n % 64 = n := by omega
  simp only [head, hb, hsecond, isTail_tail, bits_tail, hn]
  rw [if_neg (by omega), if_neg (by omega), if_neg (by decide), if_neg (by omega),
    if_neg (by decide), if_pos (by omega)]

theorem head_four (h₁ : 0x10000 ≤ n) (h₂ : n < 0x110000) :
    head (UInt8.ofNat (0xF0 + n / 262144))
      (UInt8.ofNat (0x80 + n / 4096 % 64) :: UInt8.ofNat (0x80 + n / 64 % 64) ::
        UInt8.ofNat (0x80 + n % 64) :: r) = .char (Char.ofNat n) r := by
  have hb : (UInt8.ofNat (0xF0 + n / 262144)).toNat = 0xF0 + n / 262144 := toNat_ofNat (by omega)
  have hsecond : isSecond (0xF0 + n / 262144) (UInt8.ofNat (0x80 + n / 4096 % 64)) = true :=
    isSecond_tail (by omega) (by omega) (by omega) (by omega)
  have hn : (0xF0 + n / 262144 - 0xF0) * 262144 + n / 4096 % 64 * 4096 + n / 64 % 64 * 64 +
      n % 64 = n := by omega
  simp only [head, hb, hsecond, isTail_tail, bits_tail, hn]
  rw [if_neg (by omega), if_neg (by omega), if_neg (by decide), if_neg (by omega),
    if_neg (by decide), if_neg (by omega), if_neg (by decide)]

theorem head_encodeChar (c : Char) (r : List UInt8) :
    ∃ b t, encodeChar c = b :: t ∧ head b (t ++ r) = .char c r := by
  have hc : Head.char (Char.ofNat c.toNat) r = .char c r := by rw [Char.ofNat_toNat]
  have hvalid : c.toNat < 0xD800 ∨ 0xDFFF < c.toNat ∧ c.toNat < 0x110000 := c.valid
  simp only [encodeChar, Nat.div_one]
  split
  · next h₁ => exact ⟨_, _, rfl, (head_one h₁).trans hc⟩
  · split
    · next h₁ h₂ => exact ⟨_, _, rfl, (head_two (by omega) h₂).trans hc⟩
    · split
      · next h₁ h₂ h₃ => exact ⟨_, _, rfl, (head_three (by omega) h₃ (by omega)).trans hc⟩
      · exact ⟨_, _, rfl, (head_four (by omega) (by omega)).trans hc⟩

theorem decodeFrom_encode (offset : Nat) (acc s : List Char) :
    decodeFrom offset acc (encode s) = .ok (acc.reverse ++ s) := by
  induction s generalizing offset acc with
  | nil => simp [encode, decodeFrom]
  | cons c r ih =>
    obtain ⟨b, t, hb, hhead⟩ := head_encodeChar c (encode r)
    have hs : encode (c :: r) = b :: (t ++ encode r) := by
      rw [encode, List.flatMap_cons, hb]
      rfl
    rw [hs, decodeFrom, hhead]
    simp [ih]

theorem decode_encode (s : List Char) : decode (encode s) = .ok s := decodeFrom_encode 0 [] s

section Read

variable {b b₂ b₃ b₄ : UInt8} {c : Char} {s : List Char} {t : List UInt8}

theorem toNat_of_isTail (h : isTail b = true) : b.toNat = 0x80 + bits b ∧ bits b < 64 := by
  simp only [isTail, Bool.and_eq_true, decide_eq_true_eq] at h
  unfold bits
  omega

theorem bounds_of_isSecond (h : isSecond n b = true) :
    b.toNat = 0x80 + bits b ∧ bits b < 64 ∧ (n = 0xE0 → 0x20 ≤ bits b) ∧
      (n = 0xED → bits b < 0x20) ∧ (n = 0xF0 → 0x10 ≤ bits b) ∧ (n = 0xF4 → bits b < 0x10) := by
  simp only [isSecond, Bool.and_eq_true, Bool.not_eq_true', Bool.and_eq_false_iff,
    beq_eq_false_iff_ne, decide_eq_false_iff_not] at h
  have hbits := toNat_of_isTail h.1.1.1.1
  omega

theorem ofNat_eq (h : n = b.toNat) : UInt8.ofNat n = b := by
  rw [h, UInt8.ofNat_toNat]

theorem toNat_charOfNat (h : n < 0xD800 ∨ 0xDFFF < n ∧ n < 0x110000) :
    (Char.ofNat n).toNat = n := by
  have hvalid : n.isValidChar := h
  rw [Char.ofNat, dif_pos hvalid]
  rfl

theorem encodeChar_one (h : b.toNat < 0x80) : encodeChar (Char.ofNat b.toNat) = [b] := by
  have hc : (Char.ofNat b.toNat).toNat = b.toNat := toNat_charOfNat (by omega)
  simp only [encodeChar, hc, if_pos h, UInt8.ofNat_toNat]

theorem encodeChar_two (h₁ : 0xC2 ≤ b.toNat) (h₂ : b.toNat < 0xE0)
    (hs : isSecond b.toNat b₂ = true) :
    encodeChar (Char.ofNat ((b.toNat - 0xC0) * 64 + bits b₂)) = [b, b₂] := by
  obtain ⟨hb₂, hlt₂, -⟩ := bounds_of_isSecond hs
  have hc : (Char.ofNat ((b.toNat - 0xC0) * 64 + bits b₂)).toNat =
      (b.toNat - 0xC0) * 64 + bits b₂ := toNat_charOfNat (by omega)
  simp only [encodeChar, hc, Nat.div_one]
  rw [if_neg (by omega), if_pos (by omega), ofNat_eq (by omega : _ = b.toNat),
    ofNat_eq (by omega : _ = b₂.toNat)]

theorem encodeChar_three (h₁ : 0xE0 ≤ b.toNat) (h₂ : b.toNat < 0xF0)
    (hs : isSecond b.toNat b₂ = true) (ht : isTail b₃ = true) :
    encodeChar (Char.ofNat ((b.toNat - 0xE0) * 4096 + bits b₂ * 64 + bits b₃)) = [b, b₂, b₃] := by
  obtain ⟨hb₂, hlt₂, hbounds⟩ := bounds_of_isSecond hs
  obtain ⟨hb₃, hlt₃⟩ := toNat_of_isTail ht
  have hc : (Char.ofNat ((b.toNat - 0xE0) * 4096 + bits b₂ * 64 + bits b₃)).toNat =
      (b.toNat - 0xE0) * 4096 + bits b₂ * 64 + bits b₃ := toNat_charOfNat (by omega)
  simp only [encodeChar, hc, Nat.div_one]
  rw [if_neg (by omega), if_neg (by omega), if_pos (by omega), ofNat_eq (by omega : _ = b.toNat),
    ofNat_eq (by omega : _ = b₂.toNat), ofNat_eq (by omega : _ = b₃.toNat)]

theorem encodeChar_four (h₁ : 0xF0 ≤ b.toNat) (h₂ : b.toNat < 0xF5)
    (hs : isSecond b.toNat b₂ = true) (ht₃ : isTail b₃ = true) (ht₄ : isTail b₄ = true) :
    encodeChar (Char.ofNat ((b.toNat - 0xF0) * 262144 + bits b₂ * 4096 + bits b₃ * 64 + bits b₄)) =
      [b, b₂, b₃, b₄] := by
  obtain ⟨hb₂, hlt₂, hbounds⟩ := bounds_of_isSecond hs
  obtain ⟨hb₃, hlt₃⟩ := toNat_of_isTail ht₃
  obtain ⟨hb₄, hlt₄⟩ := toNat_of_isTail ht₄
  have hc : (Char.ofNat ((b.toNat - 0xF0) * 262144 + bits b₂ * 4096 + bits b₃ * 64 +
      bits b₄)).toNat = (b.toNat - 0xF0) * 262144 + bits b₂ * 4096 + bits b₃ * 64 + bits b₄ :=
    toNat_charOfNat (by omega)
  simp only [encodeChar, hc, Nat.div_one]
  rw [if_neg (by omega), if_neg (by omega), if_neg (by omega), ofNat_eq (by omega : _ = b.toNat),
    ofNat_eq (by omega : _ = b₂.toNat), ofNat_eq (by omega : _ = b₃.toNat),
    ofNat_eq (by omega : _ = b₄.toNat)]

theorem encodeChar_of_head (h : head b r = .char c t) : b :: r = encodeChar c ++ t := by
  simp only [head] at h
  -- The cases are the lengths of a character. In each of them all bytes of the character have been
  -- checked, so that it is written with the same bytes.
  split at h
  · next hone =>
    cases h
    rw [encodeChar_one hone]
    rfl
  split at h
  · cases h
  next hone hstart =>
  split at h
  · cases h
  next b₂ r₂ =>
  split at h
  · cases h
  next hsecond =>
  simp only [Bool.not_eq_true', Bool.not_eq_false] at hsecond
  split at h
  · next htwo =>
    cases h
    rw [encodeChar_two (by omega) htwo hsecond]
    rfl
  next htwo =>
  split at h
  · cases h
  next b₃ r₃ =>
  split at h
  · cases h
  next hthird =>
  simp only [Bool.not_eq_true', Bool.not_eq_false] at hthird
  split at h
  · next hthree =>
    cases h
    rw [encodeChar_three (by omega) hthree hsecond hthird]
    rfl
  next hthree =>
  split at h
  · cases h
  next b₄ r₄ =>
  split at h
  · cases h
  next hfourth =>
  simp only [Bool.not_eq_true', Bool.not_eq_false] at hfourth
  cases h
  rw [encodeChar_four (by omega) (by omega) hsecond hthird hfourth]
  rfl

theorem exists_of_decodeFrom {offset : Nat} {acc : List Char} {bytes : List UInt8}
    (h : decodeFrom offset acc bytes = .ok s) : ∃ t, s = acc.reverse ++ t ∧ bytes = encode t := by
  induction offset, acc, bytes using decodeFrom.induct with
  | case1 offset acc =>
    rw [decodeFrom] at h
    exact ⟨[], by simpa using (Except.ok.inj h).symm, rfl⟩
  | case2 offset acc b r c t hhead ih =>
    rw [decodeFrom, hhead] at h
    obtain ⟨u, rfl, rfl⟩ := ih h
    exact ⟨c :: u, by simp, by rw [encodeChar_of_head hhead]; rfl⟩
  | case3 offset acc b r cause size hhead =>
    rw [decodeFrom, hhead] at h
    cases h

theorem decode_eq_ok_iff {bytes : List UInt8} : decode bytes = .ok s ↔ bytes = encode s := by
  constructor
  · intro h
    obtain ⟨t, rfl, hbytes⟩ := exists_of_decodeFrom h
    exact hbytes
  · rintro rfl
    exact decode_encode s

end Read

end CrateDocs.Text.Utf8
