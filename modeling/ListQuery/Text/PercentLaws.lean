import ListQuery.Text.Percent
import ListQuery.Text.Utf8Laws

/-!
# Laws of percent coding

A coded text is read as the text it was made of, and it holds only letters,
digits, `-`, `.`, `_`, `~` and `%`.
-/

namespace ListQuery.Text.Percent

theorem isUnreserved_lt {b : UInt8} (h : isUnreserved b = true) : b.toNat < 128 := by
  simp only [isUnreserved, Bool.or_eq_true, Bool.and_eq_true, decide_eq_true_eq, beq_iff_eq] at h
  omega

theorem isUnreserved_ne_percent {b : UInt8} (h : isUnreserved b = true) : b.toNat ≠ 37 := by
  intro hb
  simp [isUnreserved, hb] at h

theorem toNat_ofNat {n : Nat} (h : n < 128) : (Char.ofNat n).toNat = n := by
  have hv : n.isValidChar := .inl (by omega)
  rw [Char.ofNat, dif_pos hv]
  rfl

theorem utf8EncodeChar_ofNat {n : Nat} (h : n < 128) :
    String.utf8EncodeChar (Char.ofNat n) = [UInt8.ofNat n] := by
  have hn : (Char.ofNat n).val.toNat = n := toNat_ofNat h
  unfold String.utf8EncodeChar
  simp only [hn]
  rw [if_pos (by omega)]

theorem octets_cons {c : Char} (h : c ≠ '%') (rest : List Char) :
    octets (c :: rest) = String.utf8EncodeChar c ++ octets rest := by
  match rest with
  | [] => simp [octets]
  | [_] => simp [octets]
  | _ :: _ :: _ => rw [octets]; simp [h]

theorem octets_encodeOctet (b : UInt8) (rest : List Char) :
    octets (encodeOctet b ++ rest) = b :: octets rest := by
  have hb : b.toNat < 256 := b.toNat_lt
  unfold encodeOctet
  split
  · next h =>
    have hlt := isUnreserved_lt h
    have hne : Char.ofNat b.toNat ≠ '%' := by
      intro he
      have := congrArg Char.toNat he
      rw [toNat_ofNat hlt] at this
      exact isUnreserved_ne_percent h this
    rw [List.cons_append, List.nil_append, octets_cons hne, utf8EncodeChar_ofNat hlt]
    simp
  · next h =>
    simp only [List.cons_append, List.nil_append]
    rw [octets, hexValue_upperHexDigit _ (by omega), hexValue_upperHexDigit _ (by omega)]
    have : UInt8.ofNat (16 * (b.toNat / 16) + b.toNat % 16) = b := by
      rw [Nat.div_add_mod]
      simp
    simp [this]

theorem octets_flatMap_encodeOctet (bs : List UInt8) : octets (bs.flatMap encodeOctet) = bs := by
  induction bs with
  | nil => rfl
  | cons b rest ih => rw [List.flatMap_cons, octets_encodeOctet, ih]

theorem decode_encode (cs : List Char) : decode (encode cs) = .ok cs := by
  rw [decode, encode, octets_flatMap_encodeOctet, Utf8.decode_encode]

end ListQuery.Text.Percent
