import ListQuery.Text.Utf8

/-!
# Laws of UTF-8

The octets of a text are read as that text.
-/

namespace ListQuery.Text.Utf8

theorem toNat_octet {n : Nat} (h : n < 256) : (UInt8.ofNat n).toNat = n :=
  UInt8.toNat_ofNat_of_lt h

theorem ofNat_of_eq_toNat {n : Nat} {c : Char} (h : n = c.toNat) : Char.ofNat n = c := by
  rw [h, Char.ofNat_toNat]

def tailOctet (n : Nat) : UInt8 :=
  UInt8.ofNat (n % 0x40 + 0x80)

theorem toNat_tailOctet (n : Nat) : (tailOctet n).toNat = n % 0x40 + 0x80 :=
  toNat_octet (by omega)

theorem isTail_tailOctet (n : Nat) : isTail (tailOctet n) = true := by
  simp only [isTail, toNat_tailOctet, Bool.and_eq_true, decide_eq_true_eq]
  omega

theorem tailBits_tailOctet (n : Nat) : tailBits (tailOctet n) = n % 0x40 := by
  rw [tailBits, toNat_tailOctet]
  omega

theorem isSecond_tailOctet {a : UInt8} {n : Nat}
    (h : (a.toNat = 0xe0 → 0x20 ≤ n % 0x40) ∧ (a.toNat = 0xed → n % 0x40 < 0x20) ∧
      (a.toNat = 0xf0 → 0x10 ≤ n % 0x40) ∧ (a.toNat = 0xf4 → n % 0x40 < 0x10)) :
    isSecond a (tailOctet n) = true := by
  simp only [isSecond, isTail_tailOctet, toNat_tailOctet, Bool.true_and]
  split <;> simp_all <;> omega

theorem decodeFrom_utf8EncodeChar (c : Char) (index : Nat) (rest : List UInt8) :
    decodeFrom index (String.utf8EncodeChar c ++ rest) =
      (decodeFrom (index + (String.utf8EncodeChar c).length) rest).map (c :: ·) := by
  have hvalid : c.toNat < 0xd800 ∨ 0xdfff < c.toNat ∧ c.toNat < 0x110000 := c.valid
  have htail (n : Nat) : UInt8.ofNat (n % 64 + 128) = tailOctet n := rfl
  unfold String.utf8EncodeChar
  simp only [show c.val.toNat = c.toNat from rfl, htail]
  split
  · next h =>
    have ha : (UInt8.ofNat c.toNat).toNat = c.toNat := toNat_octet (by omega)
    rw [List.cons_append, decodeFrom.eq_def]
    dsimp only
    rw [ha, if_pos (by omega), ofNat_of_eq_toNat rfl]
    rfl
  split
  · next h₁ h₂ =>
    have ha : (UInt8.ofNat (c.toNat / 64 % 32 + 192)).toNat = c.toNat / 64 % 32 + 192 :=
      toNat_octet (by omega)
    have hc : twoOctets (UInt8.ofNat (c.toNat / 64 % 32 + 192)) (tailOctet c.toNat) = c := by
      rw [twoOctets, ha, tailBits_tailOctet]
      exact ofNat_of_eq_toNat (by omega)
    rw [List.cons_append, List.cons_append, decodeFrom.eq_def]
    dsimp only
    rw [ha, if_neg (by omega), if_pos (by omega), if_pos (isTail_tailOctet _), hc]
    rfl
  split
  · next h₁ h₂ h₃ =>
    have ha : (UInt8.ofNat (c.toNat / 4096 % 16 + 224)).toNat = c.toNat / 4096 % 16 + 224 :=
      toNat_octet (by omega)
    have hs : isSecond (UInt8.ofNat (c.toNat / 4096 % 16 + 224)) (tailOctet (c.toNat / 64)) = true :=
      isSecond_tailOctet (by omega)
    have hc : threeOctets (UInt8.ofNat (c.toNat / 4096 % 16 + 224)) (tailOctet (c.toNat / 64))
        (tailOctet c.toNat) = c := by
      rw [threeOctets, ha, tailBits_tailOctet, tailBits_tailOctet]
      exact ofNat_of_eq_toNat (by omega)
    rw [List.cons_append, List.cons_append, List.cons_append, decodeFrom.eq_def]
    dsimp only
    rw [ha, if_neg (by omega), if_neg (by omega), if_pos (by omega), if_pos hs,
      if_pos (isTail_tailOctet _), hc]
    rfl
  · next h₁ h₂ h₃ =>
    have ha : (UInt8.ofNat (c.toNat / 262144 % 8 + 240)).toNat = c.toNat / 262144 % 8 + 240 :=
      toNat_octet (by omega)
    have hs : isSecond (UInt8.ofNat (c.toNat / 262144 % 8 + 240)) (tailOctet (c.toNat / 4096)) = true :=
      isSecond_tailOctet (by omega)
    have hc : fourOctets (UInt8.ofNat (c.toNat / 262144 % 8 + 240)) (tailOctet (c.toNat / 4096))
        (tailOctet (c.toNat / 64)) (tailOctet c.toNat) = c := by
      rw [fourOctets, ha, tailBits_tailOctet, tailBits_tailOctet, tailBits_tailOctet]
      exact ofNat_of_eq_toNat (by omega)
    rw [List.cons_append, List.cons_append, List.cons_append, List.cons_append, decodeFrom.eq_def]
    dsimp only
    rw [ha, if_neg (by omega), if_neg (by omega), if_neg (by omega), if_pos (by omega), if_pos hs,
      if_pos (isTail_tailOctet _), if_pos (isTail_tailOctet _), hc]
    rfl

theorem decode_encode (cs : List Char) : decode (encode cs) = .ok cs := by
  suffices h : ∀ index, decodeFrom index (encode cs) = .ok cs from h 0
  induction cs with
  | nil => intro index; rfl
  | cons c rest ih =>
    intro index
    rw [encode, List.flatMap_cons, decodeFrom_utf8EncodeChar, ← encode, ih]
    rfl

end ListQuery.Text.Utf8
