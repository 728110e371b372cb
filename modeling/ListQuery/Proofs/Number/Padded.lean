import ListQuery.Proofs.Number.Unsigned
import ListQuery.Proofs.Text.Order
import Mathlib.Algebra.Group.Nat.Defs
import Mathlib.Data.List.Forall2
import Mathlib.Data.Nat.Init

/-!
# Numbers of fixed width

Numbers that fit into a width are written in just so many digits. Such texts
are equal if the numbers are, and they stand in the order of the numbers. So do
rows of numbers with a mark behind each.
-/

namespace ListQuery

theorem padded_succ {width : Nat} (h : 1 ≤ width) (n : Nat) :
    padded (width + 1) n = padded width (n / 10) ++ [Nat.digitChar (n % 10)] := by
  unfold padded natChars zeros
  by_cases hn : n < 10
  · have hzero : Nat.toDigits 10 (n / 10) = ['0'] := by
      rw [Nat.div_eq_of_lt hn]
      rfl
    obtain ⟨narrower, rfl⟩ := Nat.exists_eq_add_of_le' h
    rw [Nat.toDigits_of_lt_base hn, hzero, Nat.mod_eq_of_lt hn]
    simp [List.replicate_succ']
  · rw [Nat.toDigits_of_base_le (by decide) (by omega)]
    simp

theorem padded_one {n : Nat} (h : n < 10) : padded 1 n = [Nat.digitChar n] := by
  rw [padded, natChars, Nat.toDigits_of_lt_base h]
  rfl

theorem isDigit_of_mem_padded {width n : Nat} {c : Char} (h : c ∈ padded width n) : c.isDigit = true := by
  rcases List.mem_append.mp h with hzero | hdigit
  · rw [mem_zeros hzero]
    rfl
  · exact Unsigned.isDigit_of_mem_natChars hdigit

theorem ofDigitChars_zeros (count : Nat) : Nat.ofDigitChars 10 (zeros count) 0 = 0 := by
  induction count with
  | zero => rfl
  | succ count ih =>
    rw [zeros, List.replicate_succ, Nat.ofDigitChars_cons]
    exact ih

theorem ofDigitChars_padded (width n : Nat) : Nat.ofDigitChars 10 (padded width n) 0 = n := by
  rw [padded, Nat.ofDigitChars_append, ofDigitChars_zeros]
  exact Nat.ofDigitChars_ten_toDigits

theorem padded_injective (width : Nat) : Function.Injective (padded width) :=
  Function.LeftInverse.injective (ofDigitChars_padded width)

theorem digitChar_lt_digitChar_iff : ∀ m < 10, ∀ n < 10, Nat.digitChar m < Nat.digitChar n ↔ m < n := by
  decide

section
variable {width m n : Nat} (hwidth : 1 ≤ width) (hm : m < 10 ^ width)
include hwidth hm

theorem length_padded : (padded width m).length = width := by
  have hlength : (natChars m).length ≤ width := (Nat.length_toDigits_le_iff (by decide) hwidth).mpr hm
  rw [padded, List.length_append, zeros, List.length_replicate]
  omega

variable (hn : n < 10 ^ width)
include hn

theorem length_padded_eq : (padded width m).length = (padded width n).length :=
  (length_padded hwidth hm).trans (length_padded hwidth hn).symm

theorem padded_lt_padded_iff : padded width m < padded width n ↔ m < n := by
  induction width, hwidth using Nat.le_induction generalizing m n with
  | base =>
    rw [padded_one hm, padded_one hn, List.cons_lt_cons_iff, digitChar_lt_digitChar_iff m hm n hn]
    simp
  | succ width hwidth ih =>
    have hm' : m / 10 < 10 ^ width := by omega
    have hn' : n / 10 < 10 ^ width := by omega
    -- The last digit decides where the digits before it are equal.
    have hlast := digitChar_lt_digitChar_iff (m % 10) (by omega) (n % 10) (by omega)
    rw [padded_succ hwidth, padded_succ hwidth, Text.append_lt_append_iff (length_padded_eq hwidth hm' hn'),
      ih hm' hn', (padded_injective width).eq_iff, List.cons_lt_cons_iff, hlast]
    simp only [List.not_lt_nil, and_false, or_false]
    omega

end

-- ---------------------------------------------------------------------------
-- Rows of numbers
-- ---------------------------------------------------------------------------

def rowText : List (Nat × Char) → List Nat → List Char
  | (width, mark) :: layout, n :: ns => padded width n ++ mark :: rowText layout ns
  | _, _ => []

inductive Fits : List (Nat × Char) → List Nat → Prop
  | nil : Fits [] []
  | cons {width n : Nat} {mark : Char} {layout : List (Nat × Char)} {ns : List Nat}
      (hwidth : 1 ≤ width) (hn : n < 10 ^ width) (later : Fits layout ns) : Fits ((width, mark) :: layout) (n :: ns)

section
variable {layout : List (Nat × Char)} {ms ns : List Nat}

theorem length_rowText_eq (hms : Fits layout ms) (hns : Fits layout ns) :
    (rowText layout ms).length = (rowText layout ns).length := by
  induction hms generalizing ns with
  | nil =>
    cases hns
    rfl
  | cons hwidth hm later ih =>
    obtain _ | ⟨-, hn, later'⟩ := hns
    rw [rowText, rowText, List.length_append, List.length_append, List.length_cons, List.length_cons,
      length_padded_eq hwidth hm hn, ih later']

theorem rowText_injective (hms : Fits layout ms) (hns : Fits layout ns)
    (h : rowText layout ms = rowText layout ns) : ms = ns := by
  induction hms generalizing ns with
  | nil =>
    cases hns
    rfl
  | cons hwidth hm later ih =>
    obtain _ | ⟨-, hn, later'⟩ := hns
    obtain ⟨hfirst, hrest⟩ := List.append_inj h (length_padded_eq hwidth hm hn)
    rw [padded_injective _ hfirst, ih later' (List.tail_eq_of_cons_eq hrest)]

theorem rowText_lt_rowText_iff (hms : Fits layout ms) (hns : Fits layout ns) :
    rowText layout ms < rowText layout ns ↔ ms < ns := by
  induction hms generalizing ns with
  | nil =>
    cases hns
    simp [rowText]
  | cons hwidth hm later ih =>
    obtain _ | ⟨-, hn, later'⟩ := hns
    rw [rowText, rowText, Text.append_lt_append_iff (length_padded_eq hwidth hm hn),
      padded_lt_padded_iff hwidth hm hn, (padded_injective _).eq_iff, List.cons_lt_cons_iff,
      List.cons_lt_cons_iff, ih later']
    simp

end

/-- A place of a pattern: `d` stands for a digit, each other character for itself. -/
def Stands (place c : Char) : Prop :=
  if place = 'd' then c.isDigit = true else c = place

def rowPattern : List (Nat × Char) → List Char
  | [] => []
  | (width, mark) :: layout => List.replicate width 'd' ++ mark :: rowPattern layout

theorem stands_padded {width n : Nat} (hwidth : 1 ≤ width) (hn : n < 10 ^ width) :
    List.Forall₂ Stands (List.replicate width 'd') (padded width n) := by
  refine List.forall₂_iff_get.mpr ⟨?_, fun index hplace hdigit => ?_⟩
  · rw [List.length_replicate, length_padded hwidth hn]
  · rw [List.get_eq_getElem, List.getElem_replicate]
    exact isDigit_of_mem_padded (List.get_mem _ _)

theorem stands_rowText {layout : List (Nat × Char)} {ns : List Nat} (h : Fits layout ns)
    (hmarks : ∀ field ∈ layout, field.2 ≠ 'd') : List.Forall₂ Stands (rowPattern layout) (rowText layout ns) := by
  induction h with
  | nil => exact .nil
  | cons hwidth hn later ih =>
    obtain ⟨hmark, hmarks⟩ := List.forall_mem_cons.mp hmarks
    exact List.rel_append (stands_padded hwidth hn) (.cons ((if_neg hmark).mpr rfl) (ih hmarks))

end ListQuery
