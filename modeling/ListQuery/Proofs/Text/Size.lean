import Mathlib.Data.List.Infix

/-!
# The size of texts

How many octets a text takes, seen from its characters. A place in a text is
given by the octets in front of it.
-/

namespace ListQuery

/-- The octets of a text that is given by its characters. -/
def Text.size (cs : List Char) : Nat :=
  (String.ofList cs).utf8ByteSize

namespace Text

theorem size_append (xs ys : List Char) : size (xs ++ ys) = size xs + size ys := by
  rw [size, String.ofList_append, String.utf8ByteSize_append, size, size]

theorem size_toList (text : String) : size text.toList = text.utf8ByteSize := by
  rw [size, String.ofList_toList]

theorem size_eq_zero_iff {cs : List Char} : size cs = 0 ↔ cs = [] := by
  rw [size, String.utf8ByteSize_eq_zero_iff, String.ofList_eq_empty_iff]

theorem size_pos {c : Char} {cs : List Char} : 1 ≤ size (c :: cs) := by
  have hne : size (c :: cs) ≠ 0 := fun hzero => nomatch size_eq_zero_iff.mp hzero
  omega

theorem size_le_of_isPrefix {xs ys : List Char} (h : xs <+: ys) : size xs ≤ size ys := by
  obtain ⟨more, rfl⟩ := h
  rw [size_append]
  exact Nat.le_add_right _ _

theorem prefix_of_size_le {xs ys text : List Char} (hxs : xs <+: text) (hys : ys <+: text)
    (h : size xs ≤ size ys) : xs <+: ys := by
  rcases List.prefix_or_prefix_of_prefix hxs hys with hprefix | ⟨more, rfl⟩
  · exact hprefix
  · rw [size_append] at h
    obtain rfl : more = [] := size_eq_zero_iff.mp (by omega)
    exact ⟨[], by simp⟩

end Text

end ListQuery
