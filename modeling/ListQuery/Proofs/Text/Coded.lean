import ListQuery.Proofs.Text.Trimming
import ListQuery.Text.PercentLaws

/-!
# The characters of coded texts

A coded text holds unreserved characters and `%` only, each `%` with two digits
behind it. A text of unreserved characters alone is its own code.
-/

namespace ListQuery.Text.Percent

def isUnreservedChar (c : Char) : Bool :=
  c.toNat < 128 && isUnreserved (UInt8.ofNat c.toNat)

def isCodedChar (c : Char) : Bool :=
  c == '%' || isUnreservedChar c

theorem isCodedChar_of_isUnreservedChar {c : Char} (h : isUnreservedChar c = true) :
    isCodedChar c = true :=
  Bool.or_eq_true_iff.mpr (.inr h)

theorem isUnreservedChar_iff {c : Char} :
    isUnreservedChar c = true ↔
      (48 ≤ c.toNat ∧ c.toNat ≤ 57) ∨ (65 ≤ c.toNat ∧ c.toNat ≤ 90) ∨
        (97 ≤ c.toNat ∧ c.toNat ≤ 122) ∨ c.toNat = 45 ∨ c.toNat = 46 ∨ c.toNat = 95 ∨ c.toNat = 126 := by
  by_cases hlt : c.toNat < 128
  · have hoctet : (UInt8.ofNat c.toNat).toNat = c.toNat := Utf8.toNat_octet (by omega)
    simp only [isUnreservedChar, isUnreserved, hoctet, hlt, decide_true, Bool.true_and,
      Bool.or_eq_true, Bool.and_eq_true, decide_eq_true_eq, beq_iff_eq]
    omega
  · simp only [isUnreservedChar, hlt, decide_false, Bool.false_and]
    constructor
    · intro h
      cases h
    · omega

theorem isBlank_of_isCodedChar {c : Char} (h : isCodedChar c = true) : isBlank c = false := by
  -- Coded characters are visible ones of ASCII, and no blank is.
  have hrange : 33 ≤ c.toNat ∧ c.toNat ≤ 126 := by
    rcases Bool.or_eq_true_iff.mp h with hpercent | hu
    · obtain rfl : c = '%' := beq_iff_eq.mp hpercent
      decide
    · have := isUnreservedChar_iff.mp hu
      omega
  exact isBlank_of_visible hrange.1 hrange.2

-- ---------------------------------------------------------------------------
-- Components
-- ---------------------------------------------------------------------------

def isUpperHexDigit (c : Char) : Bool :=
  ('0' ≤ c && c ≤ '9') || ('A' ≤ c && c ≤ 'F')

/-- Texts of unreserved characters and of groups of a `%` and two digits. -/
inductive Component : List Char → Prop
  | nil : Component []
  | plain {c : Char} {rest : List Char} (h : isUnreservedChar c = true) :
    Component rest → Component (c :: rest)
  | group {a b : Char} {rest : List Char} (ha : isUpperHexDigit a = true) (hb : isUpperHexDigit b = true) :
    Component rest → Component ('%' :: a :: b :: rest)

theorem isUpperHexDigit_upperHexDigit : ∀ d < 16, isUpperHexDigit (upperHexDigit d) = true := by
  decide

theorem isUnreservedChar_of_isUpperHexDigit {c : Char} (h : isUpperHexDigit c = true) :
    isUnreservedChar c = true := by
  simp only [isUpperHexDigit, Bool.or_eq_true, Bool.and_eq_true, decide_eq_true_eq] at h
  have hrange : (48 ≤ c.toNat ∧ c.toNat ≤ 57) ∨ (65 ≤ c.toNat ∧ c.toNat ≤ 70) := h
  exact isUnreservedChar_iff.mpr (by omega)

theorem Component.isCodedChar {cs : List Char} (h : Component cs) : ∀ c ∈ cs, isCodedChar c = true := by
  induction h with
  | nil => exact List.forall_mem_nil _
  | plain hc _ ih => exact List.forall_mem_cons.mpr ⟨isCodedChar_of_isUnreservedChar hc, ih⟩
  | group ha hb _ ih =>
    have hdigit {d : Char} (hd : isUpperHexDigit d = true) : Percent.isCodedChar d = true :=
      isCodedChar_of_isUnreservedChar (isUnreservedChar_of_isUpperHexDigit hd)
    exact List.forall_mem_cons.mpr ⟨rfl, List.forall_mem_cons.mpr ⟨hdigit ha,
      List.forall_mem_cons.mpr ⟨hdigit hb, ih⟩⟩⟩

theorem component_encodeOctet_append (b : UInt8) {rest : List Char} (h : Component rest) :
    Component (encodeOctet b ++ rest) := by
  have hb : b.toNat < 256 := b.toNat_lt
  unfold encodeOctet
  split
  · next hu =>
    refine .plain ?_ h
    simp [isUnreservedChar, toNat_ofNat (isUnreserved_lt hu), isUnreserved_lt hu, hu]
  · refine .group ?_ ?_ h
    · exact isUpperHexDigit_upperHexDigit _ (by omega)
    · exact isUpperHexDigit_upperHexDigit _ (by omega)

theorem component_encode (cs : List Char) : Component (encode cs) := by
  unfold encode
  induction Utf8.encode cs with
  | nil => exact .nil
  | cons b rest ih => exact component_encodeOctet_append b ih

theorem isCodedChar_of_mem_encode {cs : List Char} {c : Char} (h : c ∈ encode cs) :
    isCodedChar c = true :=
  (component_encode cs).isCodedChar c h

-- ---------------------------------------------------------------------------
-- Texts that need no code
-- ---------------------------------------------------------------------------

theorem utf8EncodeChar_of_isUnreservedChar {c : Char} (h : isUnreservedChar c = true) :
    String.utf8EncodeChar c = [UInt8.ofNat c.toNat] := by
  simp only [isUnreservedChar, Bool.and_eq_true, decide_eq_true_eq] at h
  have hc := utf8EncodeChar_ofNat h.1
  rwa [Char.ofNat_toNat] at hc

theorem encodeOctet_of_isUnreservedChar {c : Char} (h : isUnreservedChar c = true) :
    encodeOctet (UInt8.ofNat c.toNat) = [c] := by
  simp only [isUnreservedChar, Bool.and_eq_true, decide_eq_true_eq] at h
  obtain ⟨hlt, hu⟩ := h
  rw [encodeOctet, if_pos hu, Utf8.toNat_octet (Nat.lt_trans hlt (by decide)), Char.ofNat_toNat]

theorem encode_eq_self {cs : List Char} (h : ∀ c ∈ cs, isUnreservedChar c = true) : encode cs = cs := by
  induction cs with
  | nil => rfl
  | cons c rest ih =>
    have hc : isUnreservedChar c = true := h c List.mem_cons_self
    have hrest : encode rest = rest := ih fun d hd => h d (List.mem_cons_of_mem _ hd)
    have hcons : encode (c :: rest) = (String.utf8EncodeChar c).flatMap encodeOctet ++ encode rest := by
      simp [encode, Utf8.encode]
    rw [hcons, hrest, utf8EncodeChar_of_isUnreservedChar hc, List.flatMap_singleton,
      encodeOctet_of_isUnreservedChar hc]
    rfl

theorem isUnreservedChar_of_isDigit {c : Char} (h : c.isDigit = true) : isUnreservedChar c = true := by
  simp only [Char.isDigit, Bool.and_eq_true, decide_eq_true_eq, UInt32.le_iff_toNat_le] at h
  exact isUnreservedChar_iff.mpr (.inl h)

end ListQuery.Text.Percent
