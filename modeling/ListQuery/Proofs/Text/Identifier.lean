import ListQuery.Text.Casing
import ListQuery.Text.Identifier

/-!
# Laws of identifiers

The characters of an ASCII identifier, and that it stays one with its first
character in capitals.
-/

namespace ListQuery.Text

theorem lt_of_isAsciiStart {c : Char} (h : isAsciiStart c = true) : c.toNat < 128 := by
  change ((decide ('A'.val ≤ c.val ∧ c.val ≤ 'Z'.val) || (decide ('a'.val ≤ c.val) && decide (c.val ≤ 'z'.val))) ||
    c == '_') = true at h
  simp only [Bool.or_eq_true, Bool.and_eq_true, decide_eq_true_eq, beq_iff_eq, UInt32.le_iff_toNat_le] at h
  rcases h with (⟨-, hupper⟩ | ⟨-, hlower⟩) | rfl
  · exact Nat.lt_of_le_of_lt hupper (by decide)
  · exact Nat.lt_of_le_of_lt hlower (by decide)
  · decide

theorem isAsciiContinue_of_isAsciiStart {c : Char} (h : isAsciiStart c = true) :
    isAsciiContinue c = true := by
  simp only [isAsciiStart, isAsciiContinue, Char.isAlphanum, Bool.or_eq_true] at h ⊢
  exact h.imp_left .inl

theorem isAsciiStart_toUpper {c : Char} (h : isAsciiStart c = true) :
    isAsciiStart c.toUpper = true := by
  have hall : ∀ n < 128, isAsciiStart (Char.ofNat n) = true → isAsciiStart (Char.ofNat n).toUpper = true := by
    decide
  have hc := hall c.toNat (lt_of_isAsciiStart h)
  rw [Char.ofNat_toNat] at hc
  exact hc h

theorem isAsciiIdentifier_eq_true_iff {cs : List Char} :
    isAsciiIdentifier cs = true ↔
      ∃ c rest, cs = c :: rest ∧ isAsciiStart c = true ∧ ∀ d ∈ rest, isAsciiContinue d = true := by
  constructor
  · intro h
    cases cs with
    | nil => cases h
    | cons c rest =>
      rw [isAsciiIdentifier, Bool.and_eq_true, List.all_eq_true] at h
      exact ⟨c, rest, rfl, h⟩
  · rintro ⟨c, rest, rfl, h⟩
    rwa [isAsciiIdentifier, Bool.and_eq_true, List.all_eq_true]

theorem capitalizeFirst_of_isAsciiStart {c : Char} (h : isAsciiStart c = true) (rest : List Char) :
    capitalizeFirst (c :: rest) = c.toUpper :: rest := by
  simp [capitalizeFirst, upperChar, lt_of_isAsciiStart h]

theorem isAsciiIdentifier_capitalizeFirst {cs : List Char} (h : isAsciiIdentifier cs = true) :
    isAsciiIdentifier (capitalizeFirst cs) = true := by
  obtain ⟨c, rest, rfl, hc, hrest⟩ := isAsciiIdentifier_eq_true_iff.mp h
  rw [capitalizeFirst_of_isAsciiStart hc]
  exact isAsciiIdentifier_eq_true_iff.mpr ⟨c.toUpper, rest, rfl, isAsciiStart_toUpper hc, hrest⟩

end ListQuery.Text
