import ListQuery.Number.Digits
import Mathlib.Data.List.TakeWhile

/-!
# Laws of unsigned numbers

Which texts are read as a number, and which fault the others have. A number
that is written out in decimal digits is read as itself.
-/

namespace ListQuery.Unsigned

-- ---------------------------------------------------------------------------
-- Digits behind a number
-- ---------------------------------------------------------------------------

theorem le_ofDigitChars (acc : Nat) (digits : List Char) : acc ≤ Nat.ofDigitChars 10 digits acc := by
  induction digits generalizing acc with
  | nil => simp
  | cons c rest ih =>
    rw [Nat.ofDigitChars_cons]
    exact Nat.le_trans (by omega) (ih _)

/-- The digits in front decide: if they denote too large a number, no matter
what follows, and only then what follows them counts. -/
theorem readDigits_eq {acc : Nat} (hacc : acc < UInt32.size) (cs : List Char) :
    readDigits acc cs =
      if UInt32.size ≤ Nat.ofDigitChars 10 (cs.takeWhile Char.isDigit) acc then .error .tooLarge
      else if cs.all Char.isDigit then .ok (Nat.ofDigitChars 10 cs acc)
      else .error .invalidDigit := by
  induction cs generalizing acc with
  | nil => simp [readDigits, Nat.not_le.mpr hacc]
  | cons c rest ih =>
    by_cases hc : c.isDigit = true
    · rw [readDigits, if_pos hc, List.takeWhile_cons_of_pos hc, Nat.ofDigitChars_cons, List.all_cons, hc,
        Bool.true_and, Nat.ofDigitChars_cons]
      dsimp only
      by_cases hnext : 10 * acc + (c.toNat - 48) < UInt32.size
      · rw [if_pos hnext]
        exact ih hnext
      · -- No number that follows is smaller again.
        have hlarge := Nat.le_trans (Nat.not_lt.mp hnext) (le_ofDigitChars _ (rest.takeWhile Char.isDigit))
        rw [if_neg hnext]
        exact (if_pos hlarge).symm
    · rw [readDigits, if_neg hc, List.takeWhile_cons_of_neg hc, Nat.ofDigitChars_nil,
        if_neg (Nat.not_le.mpr hacc), List.all_cons, Bool.eq_false_iff.mpr hc]
      rfl

-- ---------------------------------------------------------------------------
-- Texts of numbers
-- ---------------------------------------------------------------------------

def dropPlus : List Char → List Char
  | '+' :: rest => rest
  | cs => cs

theorem dropPlus_eq_self {text : List Char} (h : ∀ rest, text ≠ '+' :: rest) : dropPlus text = text := by
  unfold dropPlus
  split
  · next rest => exact absurd rfl (h rest)
  · rfl

/-- Decimal digits, one at least, behind one `+` or none, and the number that
they denote. -/
structure Numeral (text : List Char) (n : Nat) : Prop where
  filled : dropPlus text ≠ []
  digits : ∀ c ∈ dropPlus text, c.isDigit = true
  value : Nat.ofDigitChars 10 (dropPlus text) 0 = n

def leadingNumber (text : List Char) : Nat :=
  Nat.ofDigitChars 10 ((dropPlus text).takeWhile Char.isDigit) 0

theorem Numeral.leadingNumber_eq {text : List Char} {n : Nat} (h : Numeral text n) : leadingNumber text = n := by
  rw [leadingNumber, List.takeWhile_eq_self_iff.mpr h.digits, h.value]

theorem read_eq_readDigits (text : List Char) :
    read text =
      if text = [] then .error .empty
      else if dropPlus text = [] then .error .invalidDigit
      else (readDigits 0 (dropPlus text)).map UInt32.ofNat := by
  fun_cases read text with
  | case1 => rfl
  | case2 => rfl
  | case3 digits hlone =>
    have hne : digits ≠ [] := fun h => hlone h
    simp [dropPlus, hne]
  | case4 _ hempty _ hplus =>
    have hne : text ≠ [] := fun h => hempty h
    simp [dropPlus_eq_self hplus, hne]

theorem read_eq (text : List Char) :
    read text =
      if text = [] then .error .empty
      else if UInt32.size ≤ leadingNumber text then .error .tooLarge
      else if dropPlus text ≠ [] ∧ (dropPlus text).all Char.isDigit then
        .ok (UInt32.ofNat (Nat.ofDigitChars 10 (dropPlus text) 0))
      else .error .invalidDigit := by
  rw [read_eq_readDigits, readDigits_eq (by decide), leadingNumber]
  by_cases hbare : dropPlus text = []
  · simp [hbare, UInt32.size]
  · simp only [hbare, if_false, ne_eq, not_false_eq_true, true_and, apply_ite (Except.map UInt32.ofNat)]
    rfl

theorem read_eq_ok_iff {text : List Char} {n : UInt32} : read text = .ok n ↔ Numeral text n.toNat := by
  rw [read_eq]
  constructor
  · intro h
    split_ifs at h with hempty hlarge hdigits
    have hall := List.all_eq_true.mp hdigits.2
    have hvalue : leadingNumber text = Nat.ofDigitChars 10 (dropPlus text) 0 :=
      Numeral.leadingNumber_eq ⟨hdigits.1, hall, rfl⟩
    refine ⟨hdigits.1, hall, ?_⟩
    rw [← Except.ok.inj h, UInt32.toNat_ofNat_of_lt' (by omega)]
  · intro h
    have hempty : text ≠ [] := by
      rintro rfl
      exact h.filled rfl
    have hsmall : ¬UInt32.size ≤ leadingNumber text := by
      rw [h.leadingNumber_eq]
      exact Nat.not_le.mpr n.toNat_lt_size
    rw [if_neg hempty, if_neg hsmall, if_pos ⟨h.filled, List.all_eq_true.mpr h.digits⟩, h.value,
      UInt32.ofNat_toNat]

theorem read_eq_empty_iff {text : List Char} : read text = .error .empty ↔ text = [] := by
  rw [read_eq]
  split_ifs with hempty <;> simp [hempty]

theorem read_eq_tooLarge_iff {text : List Char} :
    read text = .error .tooLarge ↔ UInt32.size ≤ leadingNumber text := by
  rw [read_eq]
  split_ifs with hempty hlarge
  · subst hempty
    simp [leadingNumber, dropPlus, UInt32.size]
  · simp [hlarge]
  · simp [hlarge]
  · simp [hlarge]

/-- What the message of a fault says about the text: there is none, the digits in
front denote too large a number, or neither. -/
structure Fault.Explains (fault : Fault) (text : List Char) : Prop where
  empty : fault.message = "cannot parse integer from empty string" ↔ text = []
  tooLarge : fault.message = "number too large to fit in target type" ↔ 4294967295 < leadingNumber text
  invalidDigit : fault.message = "invalid digit found in string" ↔
    text ≠ [] ∧ ¬4294967295 < leadingNumber text

theorem explains_of_read {text : List Char} {fault : Fault} (h : read text = .error fault) :
    fault.Explains text := by
  have hempty : fault = .empty ↔ text = [] := by
    rw [← read_eq_empty_iff, h, Except.error.injEq]
  have htooLarge : fault = .tooLarge ↔ 4294967295 < leadingNumber text := by
    change _ ↔ UInt32.size ≤ leadingNumber text
    rw [← read_eq_tooLarge_iff, h, Except.error.injEq]
  constructor
  · rw [← hempty]
    cases fault <;> decide
  · rw [← htooLarge]
    cases fault <;> decide
  · rw [ne_eq, ← hempty, ← htooLarge]
    cases fault <;> decide

-- ---------------------------------------------------------------------------
-- Numbers written out
-- ---------------------------------------------------------------------------

theorem isDigit_of_mem_natChars {n : Nat} {c : Char} (h : c ∈ natChars n) : c.isDigit = true :=
  Nat.isDigit_of_mem_toDigits (by decide) (by decide) h

theorem numeral_natChars (n : Nat) : Numeral (natChars n) n := by
  have hplus : dropPlus (natChars n) = natChars n := by
    apply dropPlus_eq_self
    intro rest h
    have hmem : '+' ∈ natChars n := h ▸ List.mem_cons_self
    exact absurd (isDigit_of_mem_natChars hmem) (by decide)
  refine ⟨?_, ?_, ?_⟩
  · rw [hplus]
    exact Nat.toDigits_ne_nil
  · rw [hplus]
    exact fun c => isDigit_of_mem_natChars
  · rw [hplus]
    exact Nat.ofDigitChars_ten_toDigits

theorem read_natChars (n : UInt32) : read (natChars n.toNat) = .ok n :=
  read_eq_ok_iff.mpr (numeral_natChars n.toNat)

end ListQuery.Unsigned
