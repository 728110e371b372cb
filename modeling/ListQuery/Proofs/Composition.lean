import ListQuery.Proofs.Leftmost

/-!
# Clauses that come apart as they were put together

For any field that does not begin with `=`, any operator and any value, the
exact condition under which the clause made of them is read as these: no operator
is found in the field, none where the field meets the symbol, and none where the
symbol meets the value.
-/

namespace ListQuery

namespace Operator

/-- Beside the bare comparisons, an operator begins with one of four characters
and goes on with `=`. -/
theorem leading_cons_eq_none_iff {c : Char} {rest : List Char} :
    leading (c :: rest) = none ↔
      (c ≠ '>' ∧ c ≠ '<') ∧ ¬ (c ∈ ['=', '!', '@', '_'] ∧ rest.head? = some '=') := by
  rw [leading_eq_none_iff]
  constructor
  · intro h
    refine ⟨⟨?_, ?_⟩, ?_⟩
    · rintro rfl
      exact h .greaterThan (List.prefix_append ['>'] rest)
    · rintro rfl
      exact h .lessThan (List.prefix_append ['<'] rest)
    · rintro ⟨hc, hrest⟩
      obtain ⟨later, rfl⟩ := List.head?_eq_some_iff.mp hrest
      simp only [List.mem_cons, List.not_mem_nil, or_false] at hc
      rcases hc with rfl | rfl | rfl | rfl
      · exact h .equals (List.prefix_append ['=', '='] later)
      · exact h .notEquals (List.prefix_append ['!', '='] later)
      · exact h .contains (List.prefix_append ['@', '='] later)
      · exact h .startsWith (List.prefix_append ['_', '='] later)
  · rintro ⟨⟨hgreater, hless⟩, hfree⟩ op ⟨later, hlater⟩
    cases op with
    | greaterThan | greaterThanOrEqual => exact hgreater (List.cons.inj hlater).1.symm
    | lessThan | lessThanOrEqual => exact hless (List.cons.inj hlater).1.symm
    | _ =>
      obtain ⟨rfl, rfl⟩ := List.cons.inj hlater
      exact hfree ⟨by decide, rfl⟩

end Operator

namespace Clause

/-- An operator has two characters at most, so what follows a text can only
make one of its last character. -/
theorem quiet_iff {front rest : List Char} :
    Quiet front rest ↔ leftmost front = none ∧ ∀ c ∈ front.getLast?, Operator.leading (c :: rest) = none := by
  induction front with
  | nil => exact iff_of_true trivial ⟨rfl, fun _ h => nomatch h⟩
  | cons c front ih =>
    rw [Quiet, ih, leftmost_cons_eq_none_iff]
    cases front with
    | nil =>
      constructor
      · rintro ⟨hc, hnil, -⟩
        have hone : Operator.leading ([c] ++ rest) = none := hc
        refine ⟨⟨Operator.leading_eq_none_of_append hone, hnil⟩, ?_⟩
        rintro d ⟨⟩
        exact hc
      · rintro ⟨⟨-, hnil⟩, hlast⟩
        exact ⟨hlast c rfl, hnil, fun _ h => nomatch h⟩
    | cons d front =>
      have hpair : Operator.leading (c :: (d :: front ++ rest)) = none ↔
          Operator.leading (c :: d :: front) = none := by
        rw [Operator.leading_cons_eq_none_iff, Operator.leading_cons_eq_none_iff]
        rfl
      rw [List.getLast?_cons_cons, hpair, and_assoc]

theorem leading_last_iff {front : List Char} (hfront : leftmost front = none) (op : Operator) (value : List Char) :
    (∀ c ∈ front.getLast?, Operator.leading (c :: (op.chars ++ value)) = none) ↔
      (op = .equals → ∀ c ∈ front.getLast?, c ∉ ['=', '!', '@', '_']) := by
  constructor
  · rintro hall rfl c hc hmem
    exact (Operator.leading_cons_eq_none_iff.mp (hall c hc)).2 ⟨hmem, rfl⟩
  · intro hall c hc
    obtain ⟨shorter, rfl⟩ := List.getLast?_eq_some_iff.mp hc
    have hno := leftmost_eq_none_iff.mp hfront
    have hlast : [c] <:+: shorter ++ [c] := (List.suffix_append shorter [c]).isInfix
    refine Operator.leading_cons_eq_none_iff.mpr ⟨⟨?_, ?_⟩, ?_⟩
    · rintro rfl
      exact hno .greaterThan hlast
    · rintro rfl
      exact hno .lessThan hlast
    · rintro ⟨hmem, hhead⟩
      exact hall (head?_chars_append hhead) c hc hmem

theorem split_of_parse {text field value : String} {op : Operator}
    (h : parse text = ⟨field, some op, value, text⟩) : split text.toList = some (field.toList, op, value.toList) := by
  unfold parse at h
  split at h
  · next before found after hsplit =>
    cases h
    simpa using hsplit
  · cases h

/-- A field, an operator and a value that are not read as others once they are
put together. -/
structure ComesApart (field : String) (op : Operator) (value : String) : Prop where
  inside : ∀ (e : Operator) (index : Nat), 1 ≤ index → ¬ e.StandsAt field index
  last : op = .equals → 2 ≤ field.length → ∀ c ∈ field.toList.getLast?, c ∉ ['=', '!', '@', '_']
  value : (op = .greaterThan ∨ op = .lessThan) → value.toList.head? ≠ some '='

theorem comesApart_iff {field : String} {c : Char} {front : List Char} (hfield : field.toList = c :: front)
    (op : Operator) (value : String) :
    ComesApart field op value ↔ Quiet front (op.chars ++ value.toList) ∧ ¬ op.TakesIn value.toList := by
  have hinside : (∀ (e : Operator) (index : Nat), 1 ≤ index → ¬ e.StandsAt field index) ↔ leftmost front = none := by
    rw [leftmost_eq_none_iff]
    refine forall_congr' fun e => ?_
    rw [← Operator.exists_standsAt_iff hfield, not_exists]
    exact forall_congr' fun index => not_and.symm
  have hlast : (op = .equals → 2 ≤ field.length → ∀ d ∈ field.toList.getLast?, d ∉ ['=', '!', '@', '_']) ↔
      (op = .equals → ∀ d ∈ front.getLast?, d ∉ ['=', '!', '@', '_']) := by
    rw [← String.length_toList, hfield]
    cases front <;> simp
  have hvalue : ((op = .greaterThan ∨ op = .lessThan) → value.toList.head? ≠ some '=') ↔ ¬ op.TakesIn value.toList :=
    not_and.symm
  rw [quiet_iff]
  constructor
  · rintro ⟨hin, hend, hval⟩
    have hfront := hinside.mp hin
    exact ⟨⟨hfront, (leading_last_iff hfront op _).mpr (hlast.mp hend)⟩, hvalue.mp hval⟩
  · rintro ⟨⟨hfront, hend⟩, hval⟩
    exact ⟨hinside.mpr hfront, hlast.mpr ((leading_last_iff hfront op _).mp hend), hvalue.mpr hval⟩

/-- What a field, an operator and a value make up is read as these just if no
operator stands behind the first character of the field, an equality makes none
of its last character, and the operator takes in no character of the value. -/
theorem parse_compose_iff_comesApart {field : String} (hne : field ≠ "") (hfirst : field.toList.head? ≠ some '=')
    (op : Operator) (value : String) :
    parse (compose field op.symbol value) = ⟨field, some op, value, compose field op.symbol value⟩ ↔
      ComesApart field op value := by
  obtain ⟨c, front, hfield⟩ := List.exists_cons_of_ne_nil (mt String.toList_eq_nil_iff.mp hne)
  have hc : c ≠ '=' := by
    rintro rfl
    exact hfirst (hfield ▸ rfl)
  have htext : (compose field op.symbol value).toList = c :: (front ++ (op.chars ++ value.toList)) := by
    rw [toList_compose, hfield, List.cons_append]
  rw [comesApart_iff hfield, ← Operator.leading_append_eq_some_iff]
  constructor
  · intro h
    have hsplit : split (c :: (front ++ (op.chars ++ value.toList))) = some (c :: front, op, value.toList) := by
      rw [← htext, ← hfield]
      exact split_of_parse h
    rw [split_cons hc] at hsplit
    obtain ⟨⟨before, found, after⟩, hleft, heq⟩ := Option.map_eq_some_iff.mp hsplit
    cases heq
    obtain ⟨-, hquiet, hleading⟩ := leftmost_eq_some_iff.mp hleft
    exact ⟨hquiet, hleading⟩
  · rintro ⟨hquiet, hleading⟩
    rw [parse_of_split (htext ▸ split_of_quiet hc hquiet hleading), ← hfield, String.ofList_toList,
      String.ofList_toList]

theorem parse_compose_iff_comesApart_behind_bang :
    ("é!" ≠ "" ∧ "é!".toList.head? ≠ some '=') ∧ ComesApart "é!" .contains "=x>=1" ∧
      parse (compose "é!" Operator.contains.symbol "=x>=1") = ⟨"é!", some .contains, "=x>=1", "é!@==x>=1"⟩ ∧
      ¬ ComesApart "é!" .equals "x" := by
  have hne : "é!" ≠ "" := by decide
  have hfirst : "é!".toList.head? ≠ some '=' := by decide
  have hparse : parse (compose "é!" Operator.contains.symbol "=x>=1") =
      ⟨"é!", some .contains, "=x>=1", compose "é!" Operator.contains.symbol "=x>=1"⟩ := by decide +kernel
  have happart := (parse_compose_iff_comesApart hne hfirst .contains "=x>=1").mp hparse
  refine ⟨⟨hne, hfirst⟩, happart, hparse, fun h => ?_⟩
  have hread := (parse_compose_iff_comesApart hne hfirst .equals "x").mpr h
  exact absurd hread (by decide +kernel)

end Clause

end ListQuery
