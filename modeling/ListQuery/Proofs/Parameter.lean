import ListQuery.Parameter
import ListQuery.Proofs.Number.Unsigned
import ListQuery.Proofs.Text.Coded
import ListQuery.Proofs.Text.Pieces

/-!
# Laws of parameters

The value of a parameter is coded as one opaque component, a number like a
text. So no value ends its parameter or its key, and a query string is cut
into the parameters that it was made of.
-/

namespace ListQuery

open Text.Percent (isCodedChar isUnreservedChar)

namespace ParameterValue

theorem coded_eq_encode (value : ParameterValue) : value.coded = Text.Percent.encode value.toText.toList := by
  cases value with
  | text s => rfl
  | number n =>
    have hdigits : n.toNat.repr.toList = natChars n.toNat := Nat.toList_repr
    rw [coded, toText, hdigits]
    refine (Text.Percent.encode_eq_self ?_).symm
    intro c hc
    exact Text.Percent.isUnreservedChar_of_isDigit (Unsigned.isDigit_of_mem_natChars hc)

theorem decode_coded (value : ParameterValue) :
    Text.Percent.decode value.coded = .ok value.toText.toList := by
  rw [coded_eq_encode, Text.Percent.decode_encode]

theorem isCodedChar_of_mem_coded {value : ParameterValue} {c : Char} (h : c ∈ value.coded) :
    isCodedChar c = true := by
  rw [coded_eq_encode] at h
  exact Text.Percent.isCodedChar_of_mem_encode h

end ParameterValue

namespace Parameter

theorem cut_coded {p : Parameter} (h : '=' ∉ p.key.toList) :
    Text.cut '=' p.coded = some (p.key.toList, p.value.coded) :=
  Text.cut_append h _

theorem coded_ne_nil (p : Parameter) : p.coded ≠ [] := by
  simp [coded]

theorem ampersand_not_mem_coded {p : Parameter} (h : '&' ∉ p.key.toList) : '&' ∉ p.coded := by
  simp only [coded, List.mem_append, List.mem_cons, not_or]
  refine ⟨h, by decide, ?_⟩
  intro hvalue
  have hcoded := ParameterValue.isCodedChar_of_mem_coded hvalue
  exact absurd hcoded (by decide)

theorem pieces_queryString {ps : List Parameter} (hne : ps ≠ []) (h : ∀ p ∈ ps, '&' ∉ p.key.toList) :
    Text.pieces '&' (queryString ps).toList = ps.map coded := by
  rw [queryString, String.toList_ofList]
  apply Text.pieces_joinWith_of_not_mem (by simpa using hne)
  intro text htext
  obtain ⟨p, hp, rfl⟩ := List.mem_map.mp htext
  exact ampersand_not_mem_coded (h p hp)

/-- A query string has a component of a key if one of its pieces is the key, an
`=` and anything. -/
def HasComponent (string key : String) : Prop :=
  ∃ piece ∈ Text.pieces '&' string.toList, ∃ value, Text.cut '=' piece = some (key.toList, value)

theorem hasComponent_queryString_iff {ps : List Parameter}
    (h : ∀ p ∈ ps, '&' ∉ p.key.toList ∧ '=' ∉ p.key.toList) (key : String) :
    HasComponent (queryString ps) key ↔ ∃ p ∈ ps, p.key = key := by
  by_cases hne : ps = []
  · subst hne
    simp [HasComponent, queryString, Text.joinWith, Text.pieces, Text.cut]
  rw [HasComponent, pieces_queryString hne fun p hp => (h p hp).1]
  constructor
  · rintro ⟨piece, hpiece, value, hcut⟩
    obtain ⟨p, hp, rfl⟩ := List.mem_map.mp hpiece
    rw [cut_coded (h p hp).2] at hcut
    have hkey := congrArg Prod.fst (Option.some.inj hcut)
    exact ⟨p, hp, String.toList_inj.mp hkey⟩
  · rintro ⟨p, hp, rfl⟩
    exact ⟨p.coded, List.mem_map_of_mem hp, p.value.coded, cut_coded (h p hp).2⟩

theorem isCodedChar_of_mem_queryString {ps : List Parameter} {c : Char}
    (hkeys : ∀ p ∈ ps, ∀ c ∈ p.key.toList, isUnreservedChar c = true)
    (h : c ∈ (queryString ps).toList) : c = '&' ∨ c = '=' ∨ isCodedChar c = true := by
  rw [queryString, String.toList_ofList] at h
  rcases Text.mem_joinWith h with h | ⟨text, htext, h⟩
  · exact .inl h
  obtain ⟨p, hp, rfl⟩ := List.mem_map.mp htext
  simp only [coded, List.mem_append, List.mem_cons] at h
  rcases h with hkey | heq | hvalue
  · have hc : isUnreservedChar c = true := hkeys p hp c hkey
    exact .inr (.inr (Text.Percent.isCodedChar_of_isUnreservedChar hc))
  · exact .inr (.inl heq)
  · exact .inr (.inr (ParameterValue.isCodedChar_of_mem_coded hvalue))

def present {α : Type} (key : String) (value : α → ParameterValue) : Option α → List Parameter
  | none => []
  | some a => [⟨key, value a⟩]

theorem key_of_mem_present {α : Type} {key : String} {value : α → ParameterValue} {part : Option α}
    {p : Parameter} (h : p ∈ present key value part) : p.key = key := by
  cases part with
  | none => cases h
  | some a =>
    obtain rfl := List.mem_singleton.mp h
    rfl

theorem ofNumber_eq_present (key : String) (number : Option UInt32) :
    ofNumber key number = present key .number number := by
  cases number <;> rfl

end Parameter

end ListQuery
