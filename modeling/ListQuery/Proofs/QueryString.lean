import ListQuery.Proofs.Query.Segment
import Mathlib.Data.List.Forall2

/-!
# Parameters in query strings

A query string shows its parameters one by one, whatever texts their values are
and whatever keys they have, as long as no key has a separator. So parameters
with one query string have the same keys and the same texts in the same places.
-/

namespace ListQuery.Parameter

open Text.Percent (Component component_encode)

/-- What a query string shows of parameters is the same. A number shows as the
text of its digits does. -/
def Alike (p q : Parameter) : Prop :=
  p.key = q.key ∧ p.value.toText = q.value.toText

/-- What a piece of a query string tells of a parameter. -/
structure Tells (piece : List Char) (p : Parameter) : Prop where
  /-- Up to the first `=` it is the key, behind it a component with the text. -/
  parts : ∃ coded, Text.cut '=' piece = some (p.key.toList, coded) ∧ Component coded ∧
    Text.Percent.decode coded = .ok p.value.toText.toList
  read : Segment.read piece = Segment.assign p.key.toList p.value.toText.toList

theorem tells_coded {p : Parameter} (h : '=' ∉ p.key.toList) : Tells p.coded p where
  parts := by
    refine ⟨p.value.coded, cut_coded h, ?_, p.value.decode_coded⟩
    rw [ParameterValue.coded_eq_encode]
    exact component_encode _
  read := (Segment.pair_coded p.key p.value h).read_eq

theorem Tells.alike {piece : List Char} {p q : Parameter} (hp : Tells piece p) (hq : Tells piece q) :
    Alike p q := by
  obtain ⟨coded, hcut, -, htext⟩ := hp.parts
  obtain ⟨other, hcut', -, htext'⟩ := hq.parts
  obtain ⟨hkey, rfl⟩ := Prod.mk.inj (Option.some.inj (hcut.symm.trans hcut'))
  have hsame := Except.ok.inj (htext.symm.trans htext')
  exact ⟨String.toList_inj.mp hkey, String.toList_inj.mp hsame⟩

theorem Alike.coded_eq {p q : Parameter} (h : Alike p q) : p.coded = q.coded := by
  rw [coded, coded, h.1, ParameterValue.coded_eq_encode, ParameterValue.coded_eq_encode, h.2]

theorem forall₂_alike_of_tells {pieces : List (List Char)} {ps qs : List Parameter}
    (hps : List.Forall₂ Tells pieces ps) (hqs : List.Forall₂ Tells pieces qs) : List.Forall₂ Alike ps qs := by
  induction hps generalizing qs with
  | nil =>
    cases hqs
    exact .nil
  | cons hp _ ih =>
    cases hqs with
    | cons hq hrest => exact .cons (hp.alike hq) (ih hrest)

theorem queryString_eq_of_alike {ps qs : List Parameter} (h : List.Forall₂ Alike ps qs) :
    queryString ps = queryString qs := by
  have hcoded : ps.map coded = qs.map coded := by
    induction h with
    | nil => rfl
    | cons hp _ ih => rw [List.map_cons, List.map_cons, hp.coded_eq, ih]
  rw [queryString, hcoded, queryString]

theorem tells_pieces {ps : List Parameter} (hne : ps ≠ [])
    (hkeys : ∀ p ∈ ps, '&' ∉ p.key.toList ∧ '=' ∉ p.key.toList) :
    List.Forall₂ Tells (Text.pieces '&' (queryString ps).toList) ps := by
  rw [pieces_queryString hne fun p hp => (hkeys p hp).1, List.forall₂_map_left_iff, List.forall₂_same]
  exact fun p hp => tells_coded (hkeys p hp).2

/-- Each piece of a query string tells of one parameter, in their order. Other
parameters have that query string just if they have the same keys and texts. -/
theorem query_string_tells_parameters {ps : List Parameter} (hne : ps ≠ [])
    (hkeys : ∀ p ∈ ps, '&' ∉ p.key.toList ∧ '=' ∉ p.key.toList) :
    List.Forall₂ Tells (Text.pieces '&' (queryString ps).toList) ps ∧
      ∀ qs : List Parameter, (∀ q ∈ qs, '&' ∉ q.key.toList ∧ '=' ∉ q.key.toList) →
        (queryString qs = queryString ps ↔ List.Forall₂ Alike qs ps) := by
  have htells := tells_pieces hne hkeys
  refine ⟨htells, fun qs hqs => ⟨fun hsame => ?_, queryString_eq_of_alike⟩⟩
  rw [← hsame] at htells
  by_cases hnone : qs = []
  · -- Without parameters the only piece is empty, and has no `=`.
    subst hnone
    obtain ⟨p, rest, rfl⟩ := List.exists_cons_of_ne_nil hne
    have hpieces : Text.pieces '&' (queryString []).toList = [[]] := rfl
    rw [hpieces] at htells
    obtain ⟨coded, hcut, -⟩ := (List.forall₂_cons.mp htells).1.parts
    cases hcut
  · exact forall₂_alike_of_tells (tells_pieces hnone hqs) htells

theorem query_string_tells_parameters_of_awkward_texts :
    let ps : List Parameter := [⟨"", .text "a&b=%41+ß, "⟩, ⟨"n", .number 7⟩, ⟨"?n ", .text ""⟩]
    let qs : List Parameter := [⟨"", .text "a&b=%41+ß, "⟩, ⟨"n", .text "7"⟩, ⟨"?n ", .text ""⟩]
    ps ≠ [] ∧ (∀ p ∈ ps, '&' ∉ p.key.toList ∧ '=' ∉ p.key.toList) ∧
      queryString ps = "=a%26b%3D%2541%2B%C3%9F%2C%20&n=7&?n =" ∧
      List.Forall₂ Tells ["=a%26b%3D%2541%2B%C3%9F%2C%20".toList, "n=7".toList, "?n =".toList] ps ∧
      (∀ q ∈ qs, '&' ∉ q.key.toList ∧ '=' ∉ q.key.toList) ∧ queryString qs = queryString ps := by
  intro ps qs
  have hne : ps ≠ [] := List.cons_ne_nil _ _
  have hps : ∀ p ∈ ps, '&' ∉ p.key.toList ∧ '=' ∉ p.key.toList := by decide
  have hqs : ∀ q ∈ qs, '&' ∉ q.key.toList ∧ '=' ∉ q.key.toList := by decide
  have hstring : queryString ps = "=a%26b%3D%2541%2B%C3%9F%2C%20&n=7&?n =" := by decide +kernel
  have hpieces : Text.pieces '&' (queryString ps).toList =
      ["=a%26b%3D%2541%2B%C3%9F%2C%20".toList, "n=7".toList, "?n =".toList] := by
    decide +kernel
  obtain ⟨htells, hsame⟩ := query_string_tells_parameters hne hps
  have halike : List.Forall₂ Alike qs ps :=
    .cons ⟨rfl, rfl⟩ (.cons ⟨rfl, by decide +kernel⟩ (.cons ⟨rfl, rfl⟩ .nil))
  exact ⟨hne, hps, hstring, hpieces ▸ htells, hqs, (hsame qs hqs).mpr halike⟩

end ListQuery.Parameter
