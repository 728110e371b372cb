import ListQuery.Text.Span
import Mathlib.Data.List.TakeWhile

/-!
# Laws of trimming

Trimming leaves no blank at either end, and it changes no text that has none
there.
-/

namespace ListQuery.Text

theorem isBlank_of_visible {c : Char} (hfirst : 33 ≤ c.toNat) (hlast : c.toNat ≤ 126) :
    isBlank c = false := by
  simp only [isBlank, inSpans, blankSpans, List.any_cons, List.any_nil, Bool.or_eq_false_iff,
    Bool.and_eq_false_iff, decide_eq_false_iff_not, and_true]
  omega

structure Trimmed (cs : List Char) : Prop where
  head : ∀ c ∈ cs.head?, isBlank c = false
  last : ∀ c ∈ cs.getLast?, isBlank c = false

theorem trimmed_iff_all {cs : List Char} :
    Trimmed cs ↔ cs.head?.all (!isBlank ·) = true ∧ cs.getLast?.all (!isBlank ·) = true := by
  simp only [Option.all_eq_true, Bool.not_eq_true']
  exact ⟨fun h => ⟨h.head, h.last⟩, fun ⟨head, last⟩ => ⟨head, last⟩⟩

instance (cs : List Char) : Decidable (Trimmed cs) :=
  decidable_of_iff _ trimmed_iff_all.symm

theorem trimmed_of_forall {cs : List Char} (h : ∀ c ∈ cs, isBlank c = false) : Trimmed cs :=
  ⟨fun c hc => h c (List.mem_of_mem_head? hc), fun c hc => h c (List.mem_of_mem_getLast? hc)⟩

theorem trimmed_cons_append {c : Char} {back : List Char} (hc : isBlank c = false) (hback : Trimmed back)
    (hne : back ≠ []) (middle : List Char) : Trimmed (c :: (middle ++ back)) where
  head := by
    rintro d hd
    obtain rfl := Option.some.inj hd
    exact hc
  last := by
    obtain ⟨last, hlast⟩ := Option.ne_none_iff_exists'.mp (mt List.getLast?_eq_none_iff.mp hne)
    rw [← List.cons_append, List.getLast?_append, hlast, Option.some_or]
    exact hlast ▸ hback.last

-- ---------------------------------------------------------------------------
-- The left end
-- ---------------------------------------------------------------------------

theorem dropBlanksLeft_eq_self {cs : List Char} (h : ∀ c ∈ cs.head?, isBlank c = false) :
    dropBlanksLeft cs = cs := by
  cases cs with
  | nil => rfl
  | cons c rest =>
    have hc : isBlank c = false := h c rfl
    simp [dropBlanksLeft, hc]

theorem isBlank_head_dropBlanksLeft (cs : List Char) :
    ∀ c ∈ (dropBlanksLeft cs).head?, isBlank c = false := by
  induction cs with
  | nil => simp [dropBlanksLeft]
  | cons c rest ih =>
    cases hc : isBlank c with
    | true => simpa [dropBlanksLeft, hc] using ih
    | false => simp [dropBlanksLeft, hc]

theorem dropBlanksLeft_suffix (cs : List Char) : dropBlanksLeft cs <:+ cs :=
  List.dropWhile_suffix isBlank

-- ---------------------------------------------------------------------------
-- The right end
-- ---------------------------------------------------------------------------

-- The right end is the left end of the text read backwards.

theorem dropBlanksRight_eq_reverse (cs : List Char) :
    dropBlanksRight cs = (dropBlanksLeft cs.reverse).reverse := rfl

theorem dropBlanksRight_eq_self {cs : List Char} (h : ∀ c ∈ cs.getLast?, isBlank c = false) :
    dropBlanksRight cs = cs := by
  rw [dropBlanksRight_eq_reverse, dropBlanksLeft_eq_self, List.reverse_reverse]
  rwa [List.head?_reverse]

theorem isBlank_last_dropBlanksRight (cs : List Char) :
    ∀ c ∈ (dropBlanksRight cs).getLast?, isBlank c = false := by
  rw [dropBlanksRight_eq_reverse, List.getLast?_reverse]
  exact isBlank_head_dropBlanksLeft cs.reverse

theorem exists_dropBlanksRight_append (cs : List Char) :
    ∃ rest, dropBlanksRight cs ++ rest = cs := by
  obtain ⟨blanks, hblanks⟩ := dropBlanksLeft_suffix cs.reverse
  refine ⟨blanks.reverse, ?_⟩
  rw [dropBlanksRight_eq_reverse, ← List.reverse_append, hblanks, List.reverse_reverse]

-- ---------------------------------------------------------------------------
-- Both ends
-- ---------------------------------------------------------------------------

theorem trimmed_trim (cs : List Char) : Trimmed (trim cs) := by
  refine ⟨?_, isBlank_last_dropBlanksRight _⟩
  intro c hc
  -- The right end is cut off last, and that leaves the head where it is.
  obtain ⟨rest, hrest⟩ := exists_dropBlanksRight_append (dropBlanksLeft cs)
  have hhead : (dropBlanksRight (dropBlanksLeft cs)).head? = some c := hc
  apply isBlank_head_dropBlanksLeft cs c
  rw [← hrest, List.head?_append, hhead]
  rfl

theorem trim_eq_self_iff {cs : List Char} : trim cs = cs ↔ Trimmed cs := by
  constructor
  · intro h
    rw [← h]
    exact trimmed_trim cs
  · intro h
    rw [trim, dropBlanksLeft_eq_self h.head, dropBlanksRight_eq_self h.last]

theorem trim_cons_of_isBlank {c : Char} (hc : isBlank c = true) (cs : List Char) :
    trim (c :: cs) = trim cs := by
  rw [trim, trim, dropBlanksLeft, List.dropWhile_cons_of_pos hc, dropBlanksLeft]

theorem trim_append_of_isBlank {c : Char} (hc : isBlank c = true) (cs : List Char) :
    trim (cs ++ [c]) = trim cs := by
  simp only [trim, dropBlanksLeft, List.dropWhile_append]
  split
  · next h =>
    rw [List.isEmpty_iff.mp h, List.dropWhile_cons_of_pos hc, List.dropWhile_nil]
  · simp [dropBlanksRight, hc]

-- ---------------------------------------------------------------------------
-- Blanks around a text
-- ---------------------------------------------------------------------------

def Blanks (cs : List Char) : Prop :=
  ∀ c ∈ cs, isBlank c = true

instance (cs : List Char) : Decidable (Blanks cs) :=
  decidable_of_iff (cs.all isBlank = true) List.all_eq_true

theorem blanks_append {cs ds : List Char} : Blanks (cs ++ ds) ↔ Blanks cs ∧ Blanks ds :=
  List.forall_mem_append

theorem trim_surrounded {left right : List Char} (hleft : Blanks left) (hright : Blanks right)
    (cs : List Char) : trim (left ++ (cs ++ right)) = trim cs := by
  have hback : trim (cs ++ right) = trim cs := by
    clear hleft
    induction right generalizing cs with
    | nil => rw [List.append_nil]
    | cons c right ih =>
      have hlater : Blanks right := fun d hd => hright d (List.mem_cons_of_mem _ hd)
      rw [List.append_cons, ih hlater, trim_append_of_isBlank (hright c List.mem_cons_self)]
  induction left with
  | nil => exact hback
  | cons c left ih =>
    rw [List.cons_append, trim_cons_of_isBlank (hleft c List.mem_cons_self)]
    exact ih fun d hd => hleft d (List.mem_cons_of_mem _ hd)

theorem exists_eq_surrounded_trim (cs : List Char) :
    ∃ left right, Blanks left ∧ Blanks right ∧ cs = left ++ (trim cs ++ right) := by
  refine ⟨cs.takeWhile isBlank, ((dropBlanksLeft cs).reverse.takeWhile isBlank).reverse, ?_, ?_, ?_⟩
  · exact fun c hc => List.mem_takeWhile_imp hc
  · exact fun c hc => List.mem_takeWhile_imp (List.mem_reverse.mp hc)
  · rw [trim, dropBlanksRight, ← List.reverse_append, List.takeWhile_append_dropWhile, List.reverse_reverse,
      dropBlanksLeft, List.takeWhile_append_dropWhile]

theorem mem_of_mem_trim {cs : List Char} {c : Char} (h : c ∈ trim cs) : c ∈ cs := by
  obtain ⟨rest, hrest⟩ := exists_dropBlanksRight_append (dropBlanksLeft cs)
  have hleft : c ∈ dropBlanksLeft cs := hrest ▸ List.mem_append_left rest h
  exact (dropBlanksLeft_suffix cs).subset hleft

end ListQuery.Text
