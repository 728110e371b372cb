import ListQuery.Text.Cut
import Mathlib.Data.List.Basic

/-!
# Laws of cutting

Joining texts and cutting what comes out gives the pieces of each of them,
one text after another.
-/

namespace ListQuery.Text

variable {sep : Char}

theorem pieces_cons_sep (sep : Char) (cs : List Char) : pieces sep (sep :: cs) = [] :: pieces sep cs := by
  simp [pieces]

theorem pieces_cons_of_ne {c : Char} {cs piece : List Char} {others : List (List Char)}
    (hc : c ≠ sep) (h : pieces sep cs = piece :: others) :
    pieces sep (c :: cs) = (c :: piece) :: others := by
  simp [pieces, hc, h]

theorem exists_pieces_eq_cons (sep : Char) (cs : List Char) :
    ∃ piece others, pieces sep cs = piece :: others :=
  List.exists_cons_of_ne_nil (pieces_ne_nil sep cs)

theorem pieces_append (sep : Char) (before after : List Char) :
    pieces sep (before ++ sep :: after) = pieces sep before ++ pieces sep after := by
  induction before with
  | nil => exact pieces_cons_sep sep after
  | cons c before ih =>
    by_cases hc : c = sep
    · subst hc
      rw [List.cons_append, pieces_cons_sep, pieces_cons_sep, ih, List.cons_append]
    · obtain ⟨piece, others, hp⟩ := exists_pieces_eq_cons sep before
      rw [hp, List.cons_append] at ih
      rw [List.cons_append, pieces_cons_of_ne hc hp, pieces_cons_of_ne hc ih, List.cons_append]

theorem flatten_pieces (sep : Char) (cs : List Char) : (pieces sep cs).flatten = cs.filter (· ≠ sep) := by
  induction cs with
  | nil => rfl
  | cons c rest ih =>
    by_cases hc : c = sep
    · subst hc
      simp [pieces_cons_sep, ih]
    · obtain ⟨piece, others, hpieces⟩ := exists_pieces_eq_cons sep rest
      rw [pieces_cons_of_ne hc hpieces]
      rw [hpieces] at ih
      simpa [hc] using ih

theorem pieces_of_not_mem {cs : List Char} (h : sep ∉ cs) : pieces sep cs = [cs] := by
  induction cs with
  | nil => rfl
  | cons c rest ih =>
    simp only [List.mem_cons, not_or] at h
    obtain ⟨hc, hrest⟩ := h
    exact pieces_cons_of_ne (Ne.symm hc) (ih hrest)

theorem not_mem_of_mem_pieces {cs piece : List Char} (h : piece ∈ pieces sep cs) : sep ∉ piece := by
  induction cs generalizing piece with
  | nil =>
    obtain rfl : piece = [] := by simpa [pieces] using h
    exact List.not_mem_nil
  | cons c rest ih =>
    by_cases hc : c = sep
    · subst hc
      rw [pieces_cons_sep] at h
      rcases List.mem_cons.mp h with rfl | h
      · exact List.not_mem_nil
      · exact ih h
    · obtain ⟨first, others, hp⟩ := exists_pieces_eq_cons sep rest
      rw [pieces_cons_of_ne hc hp] at h
      rcases List.mem_cons.mp h with rfl | h
      · simp only [List.mem_cons, not_or]
        exact ⟨Ne.symm hc, ih (hp ▸ List.mem_cons_self)⟩
      · exact ih (hp ▸ List.mem_cons_of_mem _ h)

-- ---------------------------------------------------------------------------
-- Joined texts
-- ---------------------------------------------------------------------------

theorem pieces_joinWith {texts : List (List Char)} (h : texts ≠ []) :
    pieces sep (joinWith sep texts) = texts.flatMap (pieces sep) := by
  induction texts with
  | nil => exact absurd rfl h
  | cons text others ih =>
    cases others with
    | nil => simp [joinWith]
    | cons next others =>
      have ih := ih (List.cons_ne_nil next others)
      rw [joinWith, pieces_append, ih]
      rfl

theorem pieces_joinWith_of_not_mem {texts : List (List Char)} (hne : texts ≠ [])
    (h : ∀ text ∈ texts, sep ∉ text) : pieces sep (joinWith sep texts) = texts := by
  rw [pieces_joinWith hne]
  clear hne
  induction texts with
  | nil => rfl
  | cons text others ih =>
    have htext : sep ∉ text := h text List.mem_cons_self
    rw [List.flatMap_cons, pieces_of_not_mem htext,
      ih fun other hother => h other (List.mem_cons_of_mem _ hother)]
    rfl

theorem mem_joinWith {texts : List (List Char)} {c : Char} (h : c ∈ joinWith sep texts) :
    c = sep ∨ ∃ text ∈ texts, c ∈ text := by
  induction texts with
  | nil => cases h
  | cons text others ih =>
    cases others with
    | nil => exact .inr ⟨text, List.mem_cons_self, h⟩
    | cons next others =>
      rw [joinWith, List.mem_append, List.mem_cons] at h
      rcases h with h | h | h
      · exact .inr ⟨text, List.mem_cons_self, h⟩
      · exact .inl h
      · rcases ih h with h | ⟨other, hother, h⟩
        · exact .inl h
        · exact .inr ⟨other, List.mem_cons_of_mem _ hother, h⟩

-- ---------------------------------------------------------------------------
-- The first separator
-- ---------------------------------------------------------------------------

theorem cut_append {before : List Char} (h : sep ∉ before) (after : List Char) :
    cut sep (before ++ sep :: after) = some (before, after) := by
  induction before with
  | nil => simp [cut]
  | cons c rest ih =>
    simp only [List.mem_cons, not_or] at h
    obtain ⟨hc, hrest⟩ := h
    simp [cut, Ne.symm hc, ih hrest]

theorem cut_of_not_mem {cs : List Char} (h : sep ∉ cs) : cut sep cs = none := by
  induction cs with
  | nil => rfl
  | cons c rest ih =>
    simp only [List.mem_cons, not_or] at h
    obtain ⟨hc, hrest⟩ := h
    simp [cut, Ne.symm hc, ih hrest]

theorem cut_eq_none_iff {cs : List Char} : cut sep cs = none ↔ sep ∉ cs := by
  constructor
  · intro h hmem
    obtain ⟨before, after, rfl, hbefore⟩ := List.eq_append_cons_of_mem hmem
    rw [cut_append hbefore] at h
    cases h
  · exact cut_of_not_mem

-- A word begins with its first character, so it is in no text without that.

theorem cutWord_append {before : List Char} (h : sep ∉ before) (word after : List Char) :
    cutWord (sep :: word) (before ++ sep :: (word ++ after)) = some (before, after) := by
  induction before with
  | nil =>
    have hword : (sep :: word).isPrefixOf? (sep :: (word ++ after)) = some after :=
      List.isPrefixOf?_eq_some_iff_append_eq.mpr rfl
    rw [List.nil_append, cutWord, hword]
  | cons c rest ih =>
    simp only [List.mem_cons, not_or] at h
    obtain ⟨hc, hrest⟩ := h
    simp [cutWord, List.isPrefixOf?, hc, ih hrest]

theorem cutWord_of_not_mem {cs : List Char} (h : sep ∉ cs) (word : List Char) :
    cutWord (sep :: word) cs = none := by
  induction cs with
  | nil => rfl
  | cons c rest ih =>
    simp only [List.mem_cons, not_or] at h
    obtain ⟨hc, hrest⟩ := h
    simp [cutWord, List.isPrefixOf?, hc, ih hrest]

-- ---------------------------------------------------------------------------
-- The first occurrence of a word
-- ---------------------------------------------------------------------------

/-- No occurrence of the word begins within `front` if `rest` follows it. -/
def Passes (word : List Char) : List Char → List Char → Prop
  | [], _ => True
  | c :: front, rest => ¬ word <+: c :: (front ++ rest) ∧ Passes word front rest

section
variable {word front rest : List Char}

theorem passes_append {back : List Char} :
    Passes word (front ++ back) rest ↔ Passes word front (back ++ rest) ∧ Passes word back rest := by
  induction front with
  | nil => simp [Passes]
  | cons c front ih => simp only [List.cons_append, Passes, ih, List.append_assoc, and_assoc]

theorem passes_of_not_mem {first : Char} (h : first ∉ front) : Passes (first :: word) front rest := by
  induction front with
  | nil => trivial
  | cons c front ih =>
    simp only [List.mem_cons, not_or] at h
    obtain ⟨hc, hfront⟩ := h
    exact ⟨fun hword => hc (List.cons_prefix_cons.mp hword).1, ih hfront⟩

theorem cutWord_append_of_passes (h : Passes word front rest) :
    cutWord word (front ++ rest) = (cutWord word rest).map fun (before, after) => (front ++ before, after) := by
  induction front with
  | nil => simp
  | cons c front ih =>
    obtain ⟨hc, hfront⟩ := h
    have hnone : word.isPrefixOf? (c :: (front ++ rest)) = none := by
      refine Option.eq_none_iff_forall_ne_some.mpr fun after hafter => hc ⟨after, ?_⟩
      exact List.isPrefixOf?_eq_some_iff_append_eq.mp hafter
    rw [List.cons_append, cutWord, hnone]
    simp only [ih hfront, Option.map_map]
    rfl

theorem cutWord_word_append (hword : word ≠ []) (after : List Char) :
    cutWord word (word ++ after) = some ([], after) := by
  obtain ⟨first, others, rfl⟩ := List.exists_cons_of_ne_nil hword
  exact cutWord_append List.not_mem_nil others after

theorem cutWord_eq_some {cs before after : List Char} (h : cutWord word cs = some (before, after)) :
    cs = before ++ (word ++ after) := by
  induction cs generalizing before with
  | nil =>
    unfold cutWord at h
    split at h
    · next hword => cases h; rw [hword]; rfl
    · cases h
  | cons c rest ih =>
    unfold cutWord at h
    split at h
    · next hprefix =>
      cases h
      exact (List.isPrefixOf?_eq_some_iff_append_eq.mp hprefix).symm
    · obtain ⟨⟨b, a⟩, hcut, he⟩ := Option.map_eq_some_iff.mp h
      cases he
      rw [ih hcut, List.cons_append]

end

end ListQuery.Text
