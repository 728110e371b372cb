import ListQuery.Proofs.Text.Order
import ListQuery.Text.Casing
import Mathlib.Data.List.Basic

/-!
# Laws of letter case

Only ASCII letters have their small letters in ASCII, the Kelvin sign apart. So
a text in small letters that is ASCII and has no `k` comes of an ASCII text.
-/

namespace ListQuery.Text

-- ---------------------------------------------------------------------------
-- ASCII characters
-- ---------------------------------------------------------------------------

theorem lowerChar_of_lt {c : Char} (h : c.toNat < 128) : lowerChar c = [c.toLower] :=
  if_pos h

theorem upperChar_of_lt {c : Char} (h : c.toNat < 128) : upperChar c = [c.toUpper] :=
  if_pos h

theorem toLower_of_lt {c : Char} (h : c.toNat < 128) :
    c.toLower.toNat < 128 ∧ c.toLower.toUpper = c.toUpper := by
  have hall : ∀ n < 128, (Char.ofNat n).toLower.toNat < 128 ∧
      (Char.ofNat n).toLower.toUpper = (Char.ofNat n).toUpper := by
    decide
  simpa using hall c.toNat h

theorem toLower_of_le {c : Char} (h : 128 ≤ c.toNat) : c.toLower = c := by
  refine dif_neg ?_
  rintro ⟨-, hlast⟩
  have hle : c.toNat ≤ 90 := hlast
  omega

-- ---------------------------------------------------------------------------
-- Characters of the tables
-- ---------------------------------------------------------------------------

theorem toNat_ofNat_of_valid {n : Nat} (h : n.isValidChar) : (Char.ofNat n).toNat = n := by
  rw [Char.ofNat, dif_pos h]
  rfl

theorem image?_eq_some {s : Shift} {m n : Nat} (h : s.image? m = some n) :
    s.first ≤ m ∧ m ≤ s.last ∧ n = s.target + (m - s.first) := by
  unfold Shift.image? at h
  split at h
  · next hholds =>
    simp only [Bool.and_eq_true, decide_eq_true_eq] at hholds
    exact ⟨hholds.1.1, hholds.1.2, (Option.some.inj h).symm⟩
  · cases h

theorem mapCase_cases (expansions : List (Nat × List Nat)) (shifts : List Shift) (c : Char) :
    (∃ expansion, (c.toNat, expansion) ∈ expansions ∧
      mapCase expansions shifts c = expansion.map Char.ofNat) ∨
    (∃ s ∈ shifts, s.first ≤ c.toNat ∧ c.toNat ≤ s.last ∧
      mapCase expansions shifts c = [Char.ofNat (s.target + (c.toNat - s.first))]) ∨
    mapCase expansions shifts c = [c] := by
  unfold mapCase
  cases hlookup : expansions.lookup c.toNat with
  | some expansion =>
    obtain ⟨before, after, rfl, -⟩ := List.lookup_eq_some_iff.mp hlookup
    exact .inl ⟨expansion, by simp, rfl⟩
  | none =>
    cases hshift : shifts.findSome? (·.image? c.toNat) with
    | none => exact .inr (.inr rfl)
    | some n =>
      obtain ⟨s, hs, himage⟩ := List.exists_of_findSome?_eq_some hshift
      obtain ⟨hfirst, hlast, rfl⟩ := image?_eq_some himage
      exact .inr (.inl ⟨s, hs, hfirst, hlast, rfl⟩)

theorem expansion_of_mem_lowerExpansions :
    ∀ entry ∈ lowerExpansions, ∃ n ∈ entry.2, 128 ≤ n ∧ n < 0xd800 := by
  decide

/-- The small letters of a run are valid characters beyond ASCII, unless it is
the run of the Kelvin sign alone. -/
theorem target_of_mem_lowerShifts : ∀ s ∈ lowerShifts,
    (128 ≤ s.target ∧
      (s.target + (s.last - s.first) < 0xd800 ∨
        0xdfff < s.target ∧ s.target + (s.last - s.first) < 0x110000)) ∨
    (s.first = 0x212a ∧ s.last = 0x212a) := by
  decide +kernel

theorem lowerChar_ne_nil (c : Char) : lowerChar c ≠ [] := by
  unfold lowerChar
  split
  · exact List.cons_ne_nil _ _
  · rcases mapCase_cases lowerExpansions lowerShifts c with ⟨expansion, hmem, hmap⟩ | ⟨s, -, -, -, hmap⟩ | hmap
    · obtain ⟨n, hn, -⟩ := expansion_of_mem_lowerExpansions _ hmem
      rw [hmap]
      exact List.map_eq_nil_iff.not.mpr (List.ne_nil_of_mem hn)
    · simp [hmap]
    · simp [hmap]

theorem exists_mem_lowerChar {c : Char} (h : 128 ≤ c.toNat) (hkelvin : c ≠ '\u212a') :
    ∃ d ∈ lowerChar c, 128 ≤ d.toNat := by
  rw [lowerChar, if_neg (Nat.not_lt.mpr h)]
  rcases mapCase_cases lowerExpansions lowerShifts c with
    ⟨expansion, hmem, hmap⟩ | ⟨s, hs, hfirst, hlast, hmap⟩ | hmap
  · obtain ⟨n, hn, hle, hlt⟩ := expansion_of_mem_lowerExpansions _ hmem
    refine ⟨Char.ofNat n, hmap ▸ List.mem_map_of_mem hn, ?_⟩
    rwa [toNat_ofNat_of_valid (.inl hlt)]
  · rcases target_of_mem_lowerShifts s hs with ⟨htarget, hvalid⟩ | ⟨hsign, hend⟩
    · have hplace : (s.target + (c.toNat - s.first)).isValidChar := by
        unfold Nat.isValidChar
        omega
      refine ⟨_, hmap ▸ List.mem_singleton_self _, ?_⟩
      rw [toNat_ofNat_of_valid hplace]
      omega
    · have hc : c.toNat = '\u212a'.toNat := by
        change c.toNat = 0x212a
        omega
      exact absurd (Char.toNat_inj.mp hc) hkelvin
  · exact ⟨c, hmap ▸ List.mem_singleton_self c, h⟩

-- ---------------------------------------------------------------------------
-- Texts
-- ---------------------------------------------------------------------------

theorem lowerFrom_of_ascii {cs : List Char} (h : Ascii cs) (before : List Char) :
    lowerFrom before cs = cs.map Char.toLower := by
  induction cs generalizing before with
  | nil => rfl
  | cons c rest ih =>
    have hc : c.toNat < 128 := h c List.mem_cons_self
    have hsigma : c ≠ 'Σ' := by
      rintro rfl
      exact absurd hc (by decide)
    have hrest : Ascii rest := fun d hd => h d (List.mem_cons_of_mem _ hd)
    simp [lowerFrom, hsigma, lowerChar_of_lt hc, ih hrest]

theorem ascii_of_lowerFrom {before cs : List Char} (hascii : Ascii (lowerFrom before cs))
    (hk : 'k' ∉ lowerFrom before cs) : Ascii cs := by
  induction cs generalizing before with
  | nil => exact List.forall_mem_nil _
  | cons c rest ih =>
    rw [lowerFrom] at hascii hk
    obtain ⟨hsmall, hlater⟩ := List.forall_mem_append.mp hascii
    simp only [List.mem_append, not_or] at hk
    refine List.forall_mem_cons.mpr ⟨Nat.lt_of_not_le fun hle => ?_, ih hlater hk.2⟩
    by_cases hsigma : c = 'Σ'
    · -- Both forms of the small sigma are beyond ASCII.
      rw [if_pos hsigma] at hsmall
      have hform := hsmall _ (List.mem_singleton_self _)
      split at hform <;> exact absurd hform (by decide)
    · rw [if_neg hsigma] at hsmall hk
      have hkelvin : c ≠ '\u212a' := by
        rintro rfl
        exact hk.1 (by decide +kernel)
      obtain ⟨d, hd, hbeyond⟩ := exists_mem_lowerChar hle hkelvin
      exact Nat.not_le.mpr (hsmall d hd) hbeyond

theorem ascii_of_map_toLower {cs : List Char} (h : Ascii (cs.map Char.toLower)) : Ascii cs := by
  intro c hc
  refine Nat.lt_of_not_le fun hle => ?_
  have hsmall := h c.toLower (List.mem_map_of_mem hc)
  rw [toLower_of_le hle] at hsmall
  exact Nat.not_le.mpr hsmall hle

/-- An ASCII text without `k` comes only of its own spellings. -/
theorem lower_eq_iff {name : List Char} (hascii : Ascii name) (hk : 'k' ∉ name) (cs : List Char) :
    lower cs = name ↔ cs.map Char.toLower = name := by
  constructor
  · rintro rfl
    exact (lowerFrom_of_ascii (ascii_of_lowerFrom hascii hk) []).symm
  · rintro rfl
    exact lowerFrom_of_ascii (ascii_of_map_toLower hascii) []

/-- The Kelvin sign has the small letter of `K`. -/
example : lower ['\u212a', 'e', 'Y'] = ['k', 'e', 'y'] := by
  decide +kernel

end ListQuery.Text
