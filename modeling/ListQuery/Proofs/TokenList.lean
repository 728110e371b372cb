import ListQuery.Proofs.Text.Pieces
import ListQuery.Proofs.Text.Trimming
import ListQuery.Text.Cut

/-!
# Laws of token lists

A joined list is split into the tokens of each of its texts. Splitting gives
back just the texts that were joined if each of them is a token: not empty,
and plain, which is to say without a comma and without blanks at its ends.
-/

namespace ListQuery.TokenList

/-- A text that splitting a list neither cuts nor trims. -/
structure Plain (text : String) : Prop where
  comma : ',' ∉ text.toList
  trimmed : Text.Trimmed text.toList

instance (text : String) : Decidable (Plain text) :=
  decidable_of_iff (',' ∉ text.toList ∧ Text.Trimmed text.toList)
    ⟨fun ⟨comma, trimmed⟩ => ⟨comma, trimmed⟩, fun h => ⟨h.comma, h.trimmed⟩⟩

structure IsToken (text : String) : Prop extends Plain text where
  nonempty : text ≠ ""

theorem join_eq_empty_iff {texts : List String} (h : "" ∉ texts) : join texts = "" ↔ texts = [] := by
  constructor
  · intro hjoin
    have hchars : Text.joinWith ',' (texts.map String.toList) = [] := by
      simpa [join] using congrArg String.toList hjoin
    match texts, h with
    | [], _ => rfl
    | [text], h => exact absurd (String.toList_eq_nil_iff.mp hchars) fun htext => h (by simp [htext])
    | text :: next :: others, _ => simp [Text.joinWith] at hchars
  · rintro rfl
    exact join_nil

theorem split_join (texts : List String) : split (join texts) = texts.flatMap split := by
  cases texts with
  | nil => rfl
  | cons text others =>
    have hne : (text :: others).map String.toList ≠ [] := by simp
    rw [split, join, String.toList_ofList, Text.pieces_joinWith hne, List.flatMap_map,
      List.map_flatMap, List.filter_flatMap, List.map_flatMap]
    rfl

theorem isToken_of_mem_split {list text : String} (h : text ∈ split list) : IsToken text := by
  simp only [split, List.mem_map, List.mem_filter, decide_eq_true_eq] at h
  obtain ⟨cs, ⟨⟨piece, hpiece, rfl⟩, hne⟩, rfl⟩ := h
  refine { comma := ?_, trimmed := ?_, nonempty := ?_ }
  · rw [String.toList_ofList]
    exact fun hcomma => Text.not_mem_of_mem_pieces hpiece (Text.mem_of_mem_trim hcomma)
  · rw [String.toList_ofList]
    exact Text.trimmed_trim piece
  · exact fun hempty => hne (by simpa using congrArg String.toList hempty)

theorem isToken_of_mem_flatMap_split {texts : List String} {text : String}
    (h : text ∈ texts.flatMap split) : IsToken text := by
  obtain ⟨list, -, hsplit⟩ := List.mem_flatMap.mp h
  exact isToken_of_mem_split hsplit

theorem split_of_isToken {text : String} (h : IsToken text) : split text = [text] := by
  have hne : text.toList ≠ [] := fun hnil => h.nonempty (String.toList_eq_nil_iff.mp hnil)
  have htrim : Text.trim text.toList = text.toList := Text.trim_eq_self_iff.mpr h.trimmed
  simp [split, Text.pieces_of_not_mem h.comma, htrim, hne]

theorem flatMap_split_of_isToken {texts : List String} (h : ∀ text ∈ texts, IsToken text) :
    texts.flatMap split = texts := by
  induction texts with
  | nil => rfl
  | cons text others ih =>
    have htext := split_of_isToken (h text List.mem_cons_self)
    have hothers := ih fun other hother => h other (List.mem_cons_of_mem _ hother)
    rw [List.flatMap_cons, htext, hothers]
    rfl

/-- Only tokens survive: what comes out of splitting is a token in any case. -/
theorem flatMap_split_eq_self_iff {texts : List String} :
    texts.flatMap split = texts ↔ ∀ text ∈ texts, IsToken text := by
  constructor
  · intro h text htext
    rw [← h] at htext
    exact isToken_of_mem_flatMap_split htext
  · exact flatMap_split_of_isToken

theorem getLast?_flatMap_split_iff {texts : List String} {text : String} :
    ((texts ++ [text]).flatMap split).getLast? = some text ↔ IsToken text := by
  constructor
  · intro h
    exact isToken_of_mem_flatMap_split (List.mem_of_getLast? h)
  · intro h
    rw [List.flatMap_append, List.flatMap_singleton, split_of_isToken h, List.getLast?_concat]

end ListQuery.TokenList
