import ListQuery.Proofs.Number.Unsigned
import ListQuery.Proofs.Text.Size
import Mathlib.Algebra.Group.Nat.Defs

/-!
# Reading in words

Numbers are read by arithmetic on words of 32 bits. Of a short text the words
are not looked at, since they cannot run over; of any other, each product and
each sum is checked (`readWord_eq_read`).
-/

namespace ListQuery.Unsigned

def digitWord (c : Char) : UInt32 :=
  UInt32.ofNat (c.toNat - 48)

def mulChecked (a b : UInt32) : Option UInt32 :=
  if a.toNat * b.toNat < UInt32.size then some (a * b) else none

def addChecked (a b : UInt32) : Option UInt32 :=
  if a.toNat + b.toNat < UInt32.size then some (a + b) else none

/-- The digits behind a number already read. A word that runs over goes unnoticed. -/
def readShort (acc : UInt32) : List Char → Except Fault UInt32
  | [] => .ok acc
  | c :: rest =>
    if c.isDigit then readShort (acc * 10 + digitWord c) rest else .error .invalidDigit

/-- The digits behind a number already read. The product is taken before the
digit is looked at, but a character that is no digit comes before its overflow. -/
def readLong (acc : UInt32) : List Char → Except Fault UInt32
  | [] => .ok acc
  | c :: rest =>
    let tens := mulChecked acc 10
    if c.isDigit then
      match tens.bind (addChecked · (digitWord c)) with
      | some next => readLong next rest
      | none => .error .tooLarge
    else .error .invalidDigit

/-- A number in decimal digits, behind one `+` or none; up to eight octets of
digits are a short text. -/
def readWord (text : List Char) : Except Fault UInt32 :=
  if text = [] then .error .empty
  else if text = ['+'] ∨ text = ['-'] then .error .invalidDigit
  else if Text.size (dropPlus text) ≤ 8 then readShort 0 (dropPlus text)
  else readLong 0 (dropPlus text)

theorem toNat_digitWord {c : Char} (h : c.isDigit = true) :
    (digitWord c).toNat = c.toNat - 48 ∧ c.toNat - 48 ≤ 9 := by
  have hc : c.toNat - 48 ≤ 9 := by
    have hle : c.val ≤ '9'.val := by simp only [Char.isDigit, Bool.and_eq_true, decide_eq_true_eq] at h; exact h.2
    have hnat : c.toNat ≤ 57 := UInt32.le_iff_toNat_le.mp hle
    omega
  refine ⟨UInt32.toNat_ofNat_of_lt' ?_, hc⟩
  exact Nat.lt_of_le_of_lt hc (by decide)

theorem mulChecked_ten (acc : UInt32) :
    mulChecked acc 10 = if 10 * acc.toNat < UInt32.size then some (UInt32.ofNat (10 * acc.toNat)) else none := by
  have hten : (10 : UInt32).toNat = 10 := rfl
  rw [mulChecked, hten, Nat.mul_comm]
  split_ifs with h
  · apply congrArg some
    apply UInt32.toNat_inj.mp
    rw [UInt32.toNat_mul, UInt32.toNat_ofNat_of_lt' h, hten, Nat.mul_comm]
    exact Nat.mod_eq_of_lt h
  · rfl

theorem addChecked_eq {a b : UInt32} :
    addChecked a b = if a.toNat + b.toNat < UInt32.size then some (UInt32.ofNat (a.toNat + b.toNat)) else none := by
  rw [addChecked]
  split_ifs with h
  · apply congrArg some
    apply UInt32.toNat_inj.mp
    rw [UInt32.toNat_add, UInt32.toNat_ofNat_of_lt' h]
    exact Nat.mod_eq_of_lt h
  · rfl

theorem next_word {c : Char} (h : c.isDigit = true) (acc : UInt32) :
    (mulChecked acc 10).bind (addChecked · (digitWord c)) =
      if 10 * acc.toNat + (c.toNat - 48) < UInt32.size then
        some (UInt32.ofNat (10 * acc.toNat + (c.toNat - 48)))
      else none := by
  obtain ⟨hdigit, -⟩ := toNat_digitWord h
  rw [mulChecked_ten]
  by_cases htens : 10 * acc.toNat < UInt32.size
  · rw [if_pos htens, Option.bind_some, addChecked_eq, UInt32.toNat_ofNat_of_lt' htens, hdigit]
  · rw [if_neg htens, if_neg (by omega)]
    rfl

theorem readLong_eq (acc : UInt32) (cs : List Char) :
    readLong acc cs = (readDigits acc.toNat cs).map UInt32.ofNat := by
  induction cs generalizing acc with
  | nil => exact congrArg Except.ok UInt32.ofNat_toNat.symm
  | cons c rest ih =>
    rw [readLong, readDigits]
    dsimp only
    by_cases hc : c.isDigit = true
    · rw [if_pos hc, if_pos hc, next_word hc]
      by_cases hnext : 10 * acc.toNat + (c.toNat - 48) < UInt32.size
      · rw [if_pos hnext, if_pos hnext]
        dsimp only
        rw [ih, UInt32.toNat_ofNat_of_lt' hnext]
      · rw [if_neg hnext, if_neg hnext]
        rfl
    · rw [if_neg hc, if_neg hc]
      rfl

/-- No word runs over as long as the digits to come have room. -/
theorem readShort_eq {acc : UInt32} {cs : List Char}
    (hroom : (acc.toNat + 1) * 10 ^ cs.length ≤ UInt32.size) :
    readShort acc cs = (readDigits acc.toNat cs).map UInt32.ofNat := by
  induction cs generalizing acc with
  | nil => exact congrArg Except.ok UInt32.ofNat_toNat.symm
  | cons c rest ih =>
    rw [readShort, readDigits]
    dsimp only
    by_cases hc : c.isDigit = true
    · obtain ⟨hdigit, hnine⟩ := toNat_digitWord hc
      have hstep : (10 * acc.toNat + (c.toNat - 48) + 1) * 10 ^ rest.length ≤ UInt32.size := by
        calc (10 * acc.toNat + (c.toNat - 48) + 1) * 10 ^ rest.length
            ≤ ((acc.toNat + 1) * 10) * 10 ^ rest.length := Nat.mul_le_mul_right _ (by omega)
          _ = (acc.toNat + 1) * 10 ^ (rest.length + 1) := by rw [Nat.mul_assoc, Nat.pow_succ']
          _ ≤ UInt32.size := hroom
      have hnext : 10 * acc.toNat + (c.toNat - 48) < UInt32.size := by
        have hone := Nat.le_mul_of_pos_right (10 * acc.toNat + (c.toNat - 48) + 1)
          (Nat.pow_pos (n := rest.length) (by decide : 0 < 10))
        omega
      have hword : (acc * 10 + digitWord c).toNat = 10 * acc.toNat + (c.toNat - 48) := by
        rw [UInt32.toNat_add, UInt32.toNat_mul, hdigit, Nat.mul_comm acc.toNat]
        change (10 * acc.toNat % UInt32.size + (c.toNat - 48)) % UInt32.size = _
        rw [Nat.mod_add_mod]
        exact Nat.mod_eq_of_lt hnext
      rw [if_pos hc, if_pos hc, if_pos hnext, ih (by rwa [hword]), hword]
    · rw [if_neg hc, if_neg hc]
      rfl

theorem length_le_size (cs : List Char) : cs.length ≤ Text.size cs := by
  induction cs with
  | nil => exact Nat.zero_le _
  | cons c rest ih =>
    have hsize : Text.size (c :: rest) = Text.size [c] + Text.size rest := Text.size_append [c] rest
    have hone : 1 ≤ Text.size [c] := Text.size_pos
    rw [List.length_cons, hsize]
    omega

/-- Arithmetic on words finds the number or the fault that arithmetic without
any limit finds. -/
theorem readWord_eq_read (text : List Char) : readWord text = read text := by
  rw [readWord, read_eq_readDigits]
  by_cases hempty : text = []
  · rw [if_pos hempty, if_pos hempty]
  rw [if_neg hempty, if_neg hempty]
  by_cases hsign : text = ['+'] ∨ text = ['-']
  · rw [if_pos hsign]
    rcases hsign with rfl | rfl <;> rfl
  rw [if_neg hsign]
  have hbare : dropPlus text ≠ [] := by
    intro hnil
    unfold dropPlus at hnil
    split at hnil
    · exact hsign (.inl (by rw [hnil]))
    · exact hempty hnil
  rw [if_neg hbare]
  split_ifs with hshort
  · apply readShort_eq
    have hlength : (dropPlus text).length ≤ 8 := Nat.le_trans (length_le_size _) hshort
    calc ((0 : UInt32).toNat + 1) * 10 ^ (dropPlus text).length
        ≤ 1 * 10 ^ 8 := Nat.mul_le_mul_left _ (Nat.pow_le_pow_right (by decide) hlength)
      _ ≤ UInt32.size := by decide
  · exact readLong_eq 0 _

end ListQuery.Unsigned
