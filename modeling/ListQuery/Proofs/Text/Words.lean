import ListQuery.Proofs.Text.Casing
import ListQuery.Proofs.Text.Pieces
import ListQuery.Text.Words

/-!
# Laws of words

The words of a name are its letters and digits, cut into parts that are not
empty. Both forms of camel case are made of the same words, so they differ in
the case of the first character alone.
-/

namespace ListQuery.Text

-- ---------------------------------------------------------------------------
-- Words
-- ---------------------------------------------------------------------------

theorem flatten_splitChunk (mode : WordMode) (word cs : List Char) :
    (splitChunk mode word cs).flatten = word.reverse ++ cs := by
  fun_induction splitChunk mode word cs with
  | case1 mode => rfl
  | case2 mode word h => simp
  | case3 mode word c => simp
  | case4 mode word c next rest hend ih => simp [ih]
  | case5 mode word c next rest hstay hend ih => simp [ih]
  | case6 mode word c next rest hstay hgo ih => simp [ih]

theorem ne_nil_of_mem_splitChunk {mode : WordMode} {word cs : List Char} (h : mode = .capital → word ≠ []) :
    ∀ w ∈ splitChunk mode word cs, w ≠ [] := by
  fun_induction splitChunk mode word cs with
  | case1 mode => exact List.forall_mem_nil _
  | case2 mode word hword => simp [hword]
  | case3 mode word c => simp
  | case4 mode word c next rest hend ih => exact List.forall_mem_cons.mpr ⟨by simp, ih nofun⟩
  | case5 mode word c next rest hstay hend ih =>
    exact List.forall_mem_cons.mpr ⟨by simpa using h hend.1, ih nofun⟩
  | case6 mode word c next rest hstay hgo ih => exact ih fun _ => List.cons_ne_nil _ _

theorem flatten_chunks (cs : List Char) : (chunks cs).flatten = cs.filter isAlphanumeric := by
  rw [chunks, List.flatten_filter_ne_nil, flatten_pieces]
  induction cs with
  | nil => rfl
  | cons c rest ih =>
    cases hc : isAlphanumeric c with
    | false => simpa [hc] using ih
    | true =>
      have hne : c ≠ ' ' := by
        rintro rfl
        exact absurd hc (by decide)
      simpa [hc, hne] using ih

/-- Nothing is left out of the words but what is neither letter nor digit. -/
theorem flatten_words (cs : List Char) : (words cs).flatten = cs.filter isAlphanumeric := by
  calc (words cs).flatten
      = ((chunks cs).map fun chunk => (splitChunk .start [] chunk).flatten).flatten := by
        rw [words, List.flatMap_def, List.flatten_flatten, List.map_map]
        rfl
    _ = (chunks cs).flatten := by simp [flatten_splitChunk]
    _ = cs.filter isAlphanumeric := flatten_chunks cs

theorem ne_nil_of_mem_words {cs w : List Char} (h : w ∈ words cs) : w ≠ [] := by
  obtain ⟨chunk, -, hw⟩ := List.mem_flatMap.mp h
  have hstart : WordMode.start = .capital → ([] : List Char) ≠ [] := nofun
  exact ne_nil_of_mem_splitChunk hstart w hw

-- ---------------------------------------------------------------------------
-- Camel case
-- ---------------------------------------------------------------------------

theorem capitalizeFirst_append {cs : List Char} (h : cs ≠ []) (ds : List Char) :
    capitalizeFirst (cs ++ ds) = capitalizeFirst cs ++ ds := by
  cases cs with
  | nil => exact absurd rfl h
  | cons c rest => simp [capitalizeFirst]

theorem lowerWord_cons {c : Char} {rest : List Char} (h : ¬ (c = 'Σ' ∧ rest = [])) :
    lowerWord (c :: rest) = lowerChar c ++ lowerWord rest := by
  rw [lowerWord]
  exact fun hc hrest => h ⟨hc, hrest⟩

theorem lowerWord_ne_nil {word : List Char} (h : word ≠ []) : lowerWord word ≠ [] := by
  fun_cases lowerWord word with
  | case1 => exact absurd rfl h
  | case2 => exact List.cons_ne_nil _ _
  | case3 c rest hsigma => exact List.append_ne_nil_of_left_ne_nil (lowerChar_ne_nil c) _

/-- Either form of the small sigma has the one capital. -/
theorem capitalizeFirst_lowerWord (c : Char) (rest : List Char) :
    capitalizeFirst (lowerWord (c :: rest)) = capitalizeFirst (lowerChar c) ++ lowerWord rest := by
  by_cases hsigma : c = 'Σ' ∧ rest = []
  · obtain ⟨rfl, rfl⟩ := hsigma
    decide +kernel
  · rw [lowerWord_cons hsigma, capitalizeFirst_append (lowerChar_ne_nil c)]

/-- A name that begins small is the same name as the one that begins with a
capital, just if the first letter or digit comes back from its small letters. -/
theorem capitalizeFirst_lowerCamel_iff (cs : List Char) :
    capitalizeFirst (lowerCamel cs) = upperCamel cs ↔
      ∀ c ∈ cs.find? isAlphanumeric, capitalizeFirst (lowerChar c) = upperChar c := by
  have hfirst : cs.find? isAlphanumeric = (words cs).flatten.head? := by
    rw [flatten_words, List.head?_filter]
  unfold lowerCamel upperCamel
  rw [hfirst]
  cases hwords : words cs with
  | nil => simp [capitalizeFirst]
  | cons word others =>
    have hword : word ≠ [] := ne_nil_of_mem_words (hwords ▸ List.mem_cons_self)
    have hlower : lowerWord word ≠ [] := lowerWord_ne_nil hword
    obtain ⟨c, rest, rfl⟩ := List.exists_cons_of_ne_nil hword
    simp [capitalizeFirst_append hlower, capitalizeFirst_lowerWord, capitalizeWord]

theorem capitalizeFirst_lowerCamel_of_ascii {cs : List Char} (h : Ascii cs) :
    capitalizeFirst (lowerCamel cs) = upperCamel cs := by
  refine (capitalizeFirst_lowerCamel_iff cs).mpr fun c hc => ?_
  have hlt : c.toNat < 128 := h c (List.mem_of_find?_eq_some hc)
  obtain ⟨hsmall, hcapital⟩ := toLower_of_lt hlt
  rw [lowerChar_of_lt hlt, upperChar_of_lt hlt, capitalizeFirst, upperChar_of_lt hsmall, hcapital]
  rfl

/-- The dotted capital has two small letters, of which one is an `i`. -/
example : capitalizeFirst (lowerCamel ['İ', 'd']) ≠ upperCamel ['İ', 'd'] := by
  decide +kernel

end ListQuery.Text
