import ListQuery.Proofs.Number.Unsigned
import ListQuery.Proofs.Text.Compact
import ListQuery.Value

/-!
# Laws of values

Values of every kind but texts are written in letters, digits and a few
marks, so that no comma, no blank and no operator is in what is written.
-/

namespace ListQuery

open Text (Compact compact_cons compact_append)

-- ---------------------------------------------------------------------------
-- Numbers
-- ---------------------------------------------------------------------------

@[simp] theorem compact_natChars (n : Nat) : Compact (natChars n) :=
  fun _ hc => Text.isCompactChar_of_isDigit (Unsigned.isDigit_of_mem_natChars hc)

@[simp] theorem compact_intChars (n : Int) : Compact (intChars n) := by
  unfold intChars
  split
  · exact compact_cons.mpr ⟨by decide, compact_natChars _⟩
  · exact compact_natChars _

@[simp] theorem compact_zeros (count : Nat) : Compact (zeros count) := by
  intro c hc
  rw [mem_zeros hc]
  decide

@[simp] theorem compact_padded (width n : Nat) : Compact (padded width n) :=
  compact_append.mpr ⟨compact_zeros _, compact_natChars n⟩

theorem compact_positional {digits : List Char} (h : Compact digits) (scale : Int) :
    Compact (positional digits scale) := by
  intro c hc
  rcases mem_positional hc with hdigit | rfl | rfl
  · exact h c hdigit
  · decide
  · decide

namespace Decimal

theorem compact_scientific {digits : List Char} (h : Compact digits) (scale : Int) :
    Compact (scientific digits scale) := by
  match digits with
  | [] => exact Text.compact_nil
  | [digit] =>
    simp only [compact_cons] at h
    exact compact_cons.mpr ⟨h.1, compact_cons.mpr ⟨by decide, compact_intChars _⟩⟩
  | digit :: next :: rest =>
    obtain ⟨hdigit, hrest⟩ := compact_cons.mp h
    refine compact_cons.mpr ⟨hdigit, compact_cons.mpr ⟨by decide, compact_append.mpr ⟨hrest, ?_⟩⟩⟩
    exact compact_cons.mpr ⟨by decide, compact_intChars _⟩

theorem compact_magnitude {digits : List Char} (h : Compact digits) (scale : Int) :
    Compact (magnitude digits scale) := by
  unfold magnitude
  split
  · exact compact_scientific h scale
  split
  · refine compact_append.mpr ⟨h, compact_cons.mpr ⟨by decide, compact_cons.mpr ⟨by decide, ?_⟩⟩⟩
    exact compact_intChars _
  · exact compact_positional h scale

theorem compact_text (d : Decimal) : Compact d.text := by
  have hmagnitude := compact_magnitude (compact_natChars d.unscaled.natAbs) d.scale
  unfold text
  split
  · exact compact_cons.mpr ⟨by decide, Text.compact_nil⟩
  dsimp only
  split
  · exact compact_cons.mpr ⟨by decide, hmagnitude⟩
  · exact hmagnitude

end Decimal

namespace Binary

theorem compact_signed {unsigned : List Char} (h : Compact unsigned) (negative : Bool) :
    Compact (signed negative unsigned) := by
  unfold signed
  split
  · exact compact_cons.mpr ⟨by decide, h⟩
  · exact h

theorem compact_text (x : Binary) : Compact x.text := by
  cases x with
  | notANumber => decide
  | infinite negative => exact compact_signed (by decide) negative
  | finite negative mantissa exponent narrow =>
    exact compact_signed (compact_positional (compact_natChars _) _) negative

end Binary

-- ---------------------------------------------------------------------------
-- Identifiers and instants
-- ---------------------------------------------------------------------------

namespace Uuid

theorem isCompactChar_digitChar : ∀ d < 16, Text.isCompactChar (Nat.digitChar d) = true := by
  decide

@[simp] theorem compact_hexDigits (width n : Nat) : Compact (hexDigits width n) := by
  induction width generalizing n with
  | zero => exact Text.compact_nil
  | succ width ih =>
    have hdigit := isCompactChar_digitChar (n % 16) (Nat.mod_lt n (by decide))
    exact compact_append.mpr ⟨ih (n / 16), compact_cons.mpr ⟨hdigit, Text.compact_nil⟩⟩

theorem compact_text (u : Uuid) : Compact u.text := by
  have hhyphen : Text.isCompactChar '-' = true := by decide
  simp only [text, compact_append, compact_cons, compact_hexDigits, hhyphen, and_self]

end Uuid

namespace Instant

@[simp] theorem compact_yearText (year : Int) : Compact (yearText year) := by
  unfold yearText
  split
  · exact compact_cons.mpr ⟨by decide, compact_padded _ _⟩
  split
  · exact compact_padded _ _
  · exact compact_cons.mpr ⟨by decide, compact_natChars _⟩

theorem compact_text (i : Instant) : Compact i.text := by
  have hmarks : Compact ['-', ':', '.', 'T', 'Z'] := by decide
  simp only [compact_cons] at hmarks
  simp [text, dateText, clockText, hmarks]

end Instant

-- ---------------------------------------------------------------------------
-- All kinds but texts
-- ---------------------------------------------------------------------------

theorem Value.compact_chars {v : Value} (h : ∀ s, v ≠ .text s) : Compact v.chars := by
  cases v with
  | null => exact Text.compact_nil
  | bool b => cases b <;> decide
  | int n => exact compact_intChars _
  | uint n => exact compact_natChars _
  | single bits => exact Binary.compact_text _
  | double bits => exact Binary.compact_text _
  | decimal d => exact d.compact_text
  | uuid u => exact u.compact_text
  | instant i => exact i.compact_text
  | text s => exact absurd rfl (h s)

end ListQuery
