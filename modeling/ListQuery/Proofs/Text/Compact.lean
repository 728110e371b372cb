import ListQuery.Proofs.Text.Identifier
import ListQuery.Proofs.Text.Trimming

/-!
# Compact texts

Texts of letters, digits and a few marks, among them no comma, no blank and
none of the characters that operators end in. Identifiers are such texts.
-/

namespace ListQuery.Text

def isCompactChar (c : Char) : Bool :=
  c.isAlphanum || c == '+' || c == '-' || c == '.' || c == ':' || c == '_'

def Compact (cs : List Char) : Prop :=
  ∀ c ∈ cs, isCompactChar c = true

instance (cs : List Char) : Decidable (Compact cs) :=
  decidable_of_iff (cs.all isCompactChar = true) List.all_eq_true

@[simp] theorem compact_nil : Compact [] :=
  List.forall_mem_nil _

@[simp] theorem compact_cons {c : Char} {cs : List Char} :
    Compact (c :: cs) ↔ isCompactChar c = true ∧ Compact cs :=
  List.forall_mem_cons

@[simp] theorem compact_append {cs ds : List Char} : Compact (cs ++ ds) ↔ Compact cs ∧ Compact ds :=
  List.forall_mem_append

theorem isCompactChar_of_isDigit {c : Char} (h : c.isDigit = true) : isCompactChar c = true := by
  simp [isCompactChar, Char.isAlphanum, h]

theorem isCompactChar_of_isAsciiContinue {c : Char} (h : isAsciiContinue c = true) :
    isCompactChar c = true := by
  rcases Bool.or_eq_true_iff.mp h with halphanum | hunderscore
  · simp [isCompactChar, halphanum]
  · obtain rfl := beq_iff_eq.mp hunderscore
    decide

theorem visible_of_isAlphanum {c : Char} (h : c.isAlphanum = true) : 33 ≤ c.toNat ∧ c.toNat ≤ 126 := by
  change ((decide ('A'.val ≤ c.val ∧ c.val ≤ 'Z'.val) || (decide ('a'.val ≤ c.val) && decide (c.val ≤ 'z'.val))) ||
    (decide ('0'.val ≤ c.val) && decide (c.val ≤ '9'.val))) = true at h
  simp only [Bool.or_eq_true, Bool.and_eq_true, decide_eq_true_eq, UInt32.le_iff_toNat_le] at h
  change ((65 ≤ c.toNat ∧ c.toNat ≤ 90) ∨ (97 ≤ c.toNat ∧ c.toNat ≤ 122)) ∨
    (48 ≤ c.toNat ∧ c.toNat ≤ 57) at h
  omega

theorem isBlank_of_isCompactChar {c : Char} (h : isCompactChar c = true) : isBlank c = false := by
  simp only [isCompactChar, Bool.or_eq_true, beq_iff_eq] at h
  rcases h with ((((h | rfl) | rfl) | rfl) | rfl) | rfl
  · obtain ⟨hfirst, hlast⟩ := visible_of_isAlphanum h
    exact isBlank_of_visible hfirst hlast
  all_goals decide

theorem compact_of_isAsciiIdentifier {cs : List Char} (h : isAsciiIdentifier cs = true) : Compact cs := by
  obtain ⟨c, rest, rfl, hc, hrest⟩ := isAsciiIdentifier_eq_true_iff.mp h
  have hstart := isCompactChar_of_isAsciiContinue (isAsciiContinue_of_isAsciiStart hc)
  exact compact_cons.mpr ⟨hstart, fun d hd => isCompactChar_of_isAsciiContinue (hrest d hd)⟩

section
variable {cs : List Char}

theorem Compact.comma_not_mem (h : Compact cs) : ',' ∉ cs :=
  fun hcomma => absurd (h ',' hcomma) (by decide)

theorem Compact.trimmed (h : Compact cs) : Trimmed cs :=
  trimmed_of_forall fun c hc => isBlank_of_isCompactChar (h c hc)

theorem Compact.head?_ne_equals (h : Compact cs) : cs.head? ≠ some '=' :=
  fun hequals => absurd (h '=' (List.mem_of_mem_head? hequals)) (by decide)

end

end ListQuery.Text
