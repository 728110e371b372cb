import ListQuery.Proofs.Leftmost
import Mathlib.Order.Bounds.Basic

/-!
# Each symbol searched on its own

The one scan of a clause finds what eight searches find. Each goes through the
whole text for one symbol, takes its matches one after another so that none
begins within the one before, and gives the first that is not at the very start.
Of the eight places the leftmost counts, and of the operators at that place the
first in the order of priority.
-/

namespace ListQuery

-- ---------------------------------------------------------------------------
-- The matches of a word
-- ---------------------------------------------------------------------------

namespace Text

/-- Where `word` is found in a text that begins at `place`, one match after
another. The first `covered` characters are of the match before. -/
def placesOf (word : List Char) (place covered : Nat) : List Char → List Nat
  | [] => []
  | c :: rest =>
    match covered with
    | covered + 1 => placesOf word (place + size [c]) covered rest
    | 0 =>
      if word <+: c :: rest then place :: placesOf word (place + size [c]) (word.length - 1) rest
      else placesOf word (place + size [c]) 0 rest

section
variable {word : List Char} {place : Nat}

theorem placesOf_append (front rest : List Char) :
    placesOf word place front.length (front ++ rest) = placesOf word (place + size front) 0 rest := by
  induction front generalizing place with
  | nil => rfl
  | cons c front ih =>
    rw [List.length_cons, List.cons_append, placesOf, ih, Nat.add_assoc, ← size_append]
    rfl

theorem exists_of_mem_placesOf {covered index : Nat} {text : List Char}
    (h : index ∈ placesOf word place covered text) :
    ∃ before later, text = before ++ later ∧ word <+: later ∧ place + size before = index := by
  induction text generalizing place covered with
  | nil => cases h
  | cons c rest ih =>
    -- A match in the rest is one of the whole, `c` being in front of it.
    have hrest : ∀ {covered : Nat}, index ∈ placesOf word (place + size [c]) covered rest →
        ∃ before later, c :: rest = before ++ later ∧ word <+: later ∧ place + size before = index := by
      intro covered hmem
      obtain ⟨before, later, rfl, hword, rfl⟩ := ih hmem
      refine ⟨c :: before, later, rfl, hword, ?_⟩
      rw [Nat.add_assoc, ← size_append]
      rfl
    cases covered with
    | succ covered => exact hrest h
    | zero =>
      rw [placesOf] at h
      split at h
      · next hword =>
        rcases List.mem_cons.mp h with rfl | h
        · exact ⟨[], c :: rest, rfl, hword, rfl⟩
        · exact hrest h
      · exact hrest h

theorem exists_head?_placesOf (hne : word ≠ []) {before later : List Char} (h : word <+: later) :
    ∃ first, (placesOf word place 0 (before ++ later)).head? = some first ∧ first ≤ place + size before := by
  induction before generalizing place with
  | nil =>
    cases later with
    | nil => exact absurd (List.prefix_nil.mp h) hne
    | cons c rest =>
      rw [List.nil_append, placesOf, if_pos h]
      exact ⟨place, rfl, Nat.le_add_right _ _⟩
  | cons c before ih =>
    rw [List.cons_append, placesOf]
    split
    · exact ⟨place, rfl, Nat.le_add_right _ _⟩
    · obtain ⟨first, hfirst, hle⟩ := ih
      rw [Nat.add_assoc, ← size_append] at hle
      exact ⟨first, hfirst, hle⟩

end

end Text

-- ---------------------------------------------------------------------------
-- One search
-- ---------------------------------------------------------------------------

namespace Operator

def found (op : Operator) (text : String) : Option Nat :=
  (Text.placesOf op.chars 0 0 text.toList).find? (0 < ·)

theorem size_chars (op : Operator) :
    Text.size op.chars = 1 ∨ ∃ c, op.chars = [c, '='] ∧ Text.size op.chars = 2 := by
  cases op with
  | greaterThan | lessThan => exact .inl rfl
  | _ => exact .inr ⟨_, rfl, rfl⟩

/-- The text that a search passes over before it looks for the match that
counts: the symbol if it is there, and one character if not. -/
inductive PassedOver (op : Operator) (text : List Char) : List Char → Prop
  | symbol (h : op.chars <+: text) : PassedOver op text op.chars
  | character {c : Char} (hc : [c] <+: text) (h : ¬ op.chars <+: text) : PassedOver op text [c]

theorem exists_found_eq (op : Operator) {text : String} (hne : text ≠ "") :
    ∃ front rest, text.toList = front ++ rest ∧ PassedOver op text.toList front ∧
      op.found text = (Text.placesOf op.chars (Text.size front) 0 rest).head? := by
  -- Behind the start every match counts, so the first of them is taken.
  have hhead : ∀ {place : Nat} (covered : Nat) (rest : List Char), 1 ≤ place →
      (Text.placesOf op.chars place covered rest).find? (0 < ·) =
        (Text.placesOf op.chars place covered rest).head? := by
    intro place covered rest hplace
    cases hplaces : Text.placesOf op.chars place covered rest with
    | nil => rfl
    | cons index others =>
      obtain ⟨before, later, -, -, hindex⟩ := Text.exists_of_mem_placesOf (hplaces ▸ List.mem_cons_self)
      have hpos : 0 < index := by omega
      simp [hpos]
  obtain ⟨c, rest, htext⟩ := List.exists_cons_of_ne_nil (mt String.toList_eq_nil_iff.mp hne)
  by_cases hop : op.chars <+: text.toList
  · obtain ⟨later, hlater⟩ := hop
    refine ⟨op.chars, later, hlater.symm, .symbol ⟨later, hlater⟩, ?_⟩
    obtain ⟨d, more, hchars⟩ := List.exists_cons_of_ne_nil op.chars_ne_nil
    have hword : op.chars <+: d :: (more ++ later) := ⟨later, by rw [hchars]; rfl⟩
    have hlength : op.chars.length - 1 = more.length := by rw [hchars]; rfl
    have hsize : Text.size [d] + Text.size more = Text.size op.chars := by
      rw [hchars, ← Text.size_append]
      rfl
    have hplaces : Text.placesOf op.chars 0 0 text.toList = 0 :: Text.placesOf op.chars (Text.size op.chars) 0 later := by
      rw [← hlater]
      nth_rewrite 2 [hchars]
      rw [List.cons_append, Text.placesOf, if_pos hword, hlength, Text.placesOf_append, Nat.zero_add, hsize]
    rw [found, hplaces, List.find?_cons_of_neg (by decide), hhead _ _ (hchars ▸ Text.size_pos)]
  · refine ⟨[c], rest, htext, .character ⟨rest, htext.symm⟩ hop, ?_⟩
    rw [found, htext, Text.placesOf, if_neg (htext ▸ hop), Nat.zero_add, hhead _ _ Text.size_pos]

/-- Whatever its symbol, a search sees the places that are counted for all: all
but the start, and in a text that begins with `==` all but the first two. -/
theorem PassedOver.size_le_iff {op : Operator} {text : String} {front : List Char} {index : Nat}
    (h : PassedOver op text.toList front) (hstands : op.StandsAt text index) :
    Text.size front ≤ index ↔ (if "==".toList <+: text.toList then 2 else 1) ≤ index := by
  cases h with
  | symbol h =>
    obtain ⟨rest, hrest⟩ := h
    by_cases hequals : op = .equals
    · subst hequals
      rw [if_pos ⟨rest, hrest⟩]
      exact Iff.rfl
    · have hother : ¬ "==".toList <+: text.toList := by
        rintro ⟨later, hlater⟩
        have hprefix : op.chars <+: '=' :: '=' :: later := ⟨rest, hrest.trans hlater.symm⟩
        exact hequals (eq_equals_of_isPrefix hprefix)
      rw [if_neg hother]
      rcases size_chars op with hone | ⟨c, hchars, htwo⟩
      · rw [hone]
      · -- No symbol of two characters but `==` runs over into its own start.
        have hne : index ≠ 1 := by
          rintro rfl
          rw [hchars] at hrest
          exact hequals (eq_equals_of_isPrefix (prefix_of_standsAt_one hrest.symm hstands))
        rw [htwo]
        omega
  | @character c hc h =>
    obtain ⟨rest, hrest⟩ := hc
    have hone : Text.size [c] ≤ index ↔ 1 ≤ index :=
      ⟨Nat.le_trans Text.size_pos, fun hle => size_le_of_standsAt hrest.symm hle hstands⟩
    rw [hone]
    split
    · next hequals =>
      obtain ⟨later, hlater⟩ := hequals
      have hne : index ≠ 1 := by
        rintro rfl
        obtain rfl := eq_equals_of_isPrefix (prefix_of_standsAt_one hlater.symm hstands)
        exact h ⟨later, hlater⟩
      omega
    · exact Iff.rfl

theorem found_eq_some_iff (op : Operator) (text : String) (place : Nat) :
    op.found text = some place ↔
      IsLeast {index | (if "==".toList <+: text.toList then 2 else 1) ≤ index ∧ op.StandsAt text index} place := by
  by_cases hne : text = ""
  · subst hne
    have hnone : op.found "" = none := rfl
    exact iff_of_false (fun h => nomatch hnone.symm.trans h) fun h => not_standsAt_empty op place h.1.2
  obtain ⟨front, rest, htext, hfront, hfound⟩ := exists_found_eq op hne
  have hleast : ∀ index, Text.size front ≤ index → op.StandsAt text index →
      ∃ first, op.found text = some first ∧ first ≤ index := by
    intro index hindex hstands
    obtain ⟨before, later, rfl, hop, rfl⟩ := exists_of_standsAt front htext hindex hstands
    rw [hfound, Text.size_append]
    exact Text.exists_head?_placesOf op.chars_ne_nil hop
  have hsound : ∀ {first}, op.found text = some first → Text.size front ≤ first ∧ op.StandsAt text first := by
    intro first hfirst
    obtain ⟨before, later, rfl, hop, rfl⟩ := Text.exists_of_mem_placesOf (List.mem_of_head? (hfound ▸ hfirst))
    refine ⟨Nat.le_add_right _ _, standsAt_iff.mpr ⟨front ++ before, later, ?_, hop, Text.size_append _ _⟩⟩
    rw [htext, List.append_assoc]
  constructor
  · intro hplace
    obtain ⟨hsize, hstands⟩ := hsound hplace
    refine ⟨⟨(hfront.size_le_iff hstands).mp hsize, hstands⟩, ?_⟩
    rintro index ⟨hindex, hother⟩
    obtain ⟨first, hfirst, hle⟩ := hleast index ((hfront.size_le_iff hother).mpr hindex) hother
    obtain rfl := Option.some.inj (hplace.symm.trans hfirst)
    exact hle
  · rintro ⟨⟨hindex, hstands⟩, hleft⟩
    obtain ⟨first, hfirst, hle⟩ := hleast place ((hfront.size_le_iff hstands).mpr hindex) hstands
    obtain ⟨hsize, hother⟩ := hsound hfirst
    have hge : place ≤ first := hleft ⟨(hfront.size_le_iff hother).mp hsize, hother⟩
    rw [hfirst, Nat.le_antisymm hle hge]

end Operator

-- ---------------------------------------------------------------------------
-- The eight searches
-- ---------------------------------------------------------------------------

namespace Clause

def better (text : String) (best : Option (Nat × Operator)) (op : Operator) : Option (Nat × Operator) :=
  match op.found text with
  | some place => if best.all (place < ·.1) then some (place, op) else best
  | none => best

def searched (text : String) : Option (Nat × Operator) :=
  Operator.priority.foldl (better text) none

section
variable {text : String} {place : Nat} {ops : List Operator}

theorem foldl_better_of_lt (h : ∀ e ∈ ops, ∀ index, e.found text = some index → place < index)
    {best : Option (Nat × Operator)} (hbest : best.all (place < ·.1) = true) :
    (ops.foldl (better text) best).all (place < ·.1) = true := by
  induction ops generalizing best with
  | nil => exact hbest
  | cons e ops ih =>
    refine ih (fun other hother => h other (List.mem_cons_of_mem _ hother)) ?_
    unfold better
    split
    · next index hindex =>
      split
      · exact decide_eq_true (h e List.mem_cons_self index hindex)
      · exact hbest
    · exact hbest

theorem foldl_better_of_le (h : ∀ e ∈ ops, ∀ index, e.found text = some index → place ≤ index) (op : Operator) :
    ops.foldl (better text) (some (place, op)) = some (place, op) := by
  induction ops with
  | nil => rfl
  | cons e ops ih =>
    have hkeep : better text (some (place, op)) e = some (place, op) := by
      unfold better
      split
      · next index hindex =>
        have hle := h e List.mem_cons_self index hindex
        exact if_neg (by simpa using hle)
      · rfl
    rw [List.foldl_cons, hkeep]
    exact ih fun other hother => h other (List.mem_cons_of_mem _ hother)

end

/-- The searches find the operator that a clause is read at, and its place. -/
theorem searched_eq (text : String) :
    searched text = (parse text).operator.map fun op => ((parse text).fieldName.utf8ByteSize, op) := by
  have hread := readFrom_parse text
  generalize parse text = clause at hread
  cases hread with
  | whole h =>
    have hnone : ∀ op : Operator, op.found text = none := by
      intro op
      refine Option.eq_none_iff_forall_ne_some.mpr fun place hplace => ?_
      obtain ⟨⟨hindex, hstands⟩, -⟩ := (op.found_eq_some_iff text place).mp hplace
      exact h op place hindex hstands
    simp [searched, Operator.priority, better, hnone]
  | @parts before after op h =>
    obtain ⟨others, later, hpriority, hothers⟩ := h.prior
    have hle : ∀ (e : Operator) (index : Nat), e.found text = some index → before.utf8ByteSize ≤ index := by
      intro e index hindex
      obtain ⟨⟨hstart, hstands⟩, -⟩ := (e.found_eq_some_iff text index).mp hindex
      exact h.leftmost e index hstart hstands
    have hop : op.found text = some before.utf8ByteSize := by
      refine (op.found_eq_some_iff text _).mpr ⟨⟨h.behind, h.standsAt⟩, ?_⟩
      rintro index ⟨hindex, hstands⟩
      exact h.leftmost op index hindex hstands
    have hlt : ∀ e ∈ others, ∀ index, e.found text = some index → before.utf8ByteSize < index := by
      intro e he index hindex
      refine Nat.lt_of_le_of_ne (hle e index hindex) ?_
      rintro rfl
      exact hothers e he ((e.found_eq_some_iff text _).mp hindex).1.2
    have hbest : better text (others.foldl (better text) none) op = some (before.utf8ByteSize, op) := by
      rw [better, hop]
      exact if_pos (foldl_better_of_lt hlt rfl)
    rw [searched, hpriority, List.foldl_append, List.foldl_cons, hbest]
    exact foldl_better_of_le (fun e _ => hle e) op

end Clause

end ListQuery
