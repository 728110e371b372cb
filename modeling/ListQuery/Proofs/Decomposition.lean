import ListQuery.Proofs.Clause

/-!
# Clauses taken apart and put together

The parts of a clause make up its text again, and no operator is left in the
field. The other way round, a clause that was put together of a name, an
operator and a value comes apart into these unless the operator takes a
character of the name or of the value for its own.
-/

namespace ListQuery

open Text (isAsciiIdentifier)

-- ---------------------------------------------------------------------------
-- The operator at the head of a text
-- ---------------------------------------------------------------------------

namespace Operator

theorem chars_ne_nil (op : Operator) : op.chars ≠ [] := by
  cases op <;> decide

/-- A bare comparison takes in an `=` that the value begins with: `>` and
`=x` are read as `>=` and `x`. -/
def TakesIn (op : Operator) (value : List Char) : Prop :=
  (op = .greaterThan ∨ op = .lessThan) ∧ value.head? = some '='

instance (op : Operator) (value : List Char) : Decidable (op.TakesIn value) :=
  inferInstanceAs (Decidable (_ ∧ _))

theorem leading_append_eq_some_iff {op : Operator} {value : List Char} :
    leading (op.chars ++ value) = some (op, value) ↔ ¬ op.TakesIn value := by
  constructor
  · rintro h ⟨rfl | rfl, hhead⟩
    all_goals
      obtain ⟨rest, rfl⟩ := List.head?_eq_some_iff.mp hhead
      cases h
  · intro h
    cases op with
    | greaterThan | lessThan =>
      cases value with
      | nil => rfl
      | cons c rest =>
        have hc : ¬ '=' = c := by
          rintro rfl
          exact h ⟨by decide, rfl⟩
        simp only [leading, priority, List.findSome?_cons]
        simp [chars, List.isPrefixOf?, hc]
    | _ => rfl

theorem append_eq_of_leading {text value : List Char} {op : Operator}
    (h : leading text = some (op, value)) : op.chars ++ value = text := by
  obtain ⟨found, -, hfound⟩ := List.exists_of_findSome?_eq_some h
  obtain ⟨rest, hrest, heq⟩ := Option.map_eq_some_iff.mp hfound
  cases heq
  exact List.isPrefixOf?_eq_some_iff_append_eq.mp hrest

theorem leading_eq_none_of_append {text more : List Char} (h : leading (text ++ more) = none) :
    leading text = none := by
  refine leading_eq_none_iff.mpr fun op hop => ?_
  exact leading_eq_none_iff.mp h op (hop.trans (List.prefix_append text more))

end Operator

namespace Clause

-- ---------------------------------------------------------------------------
-- The scan
-- ---------------------------------------------------------------------------

theorem leftmost_cons_eq_none_iff {c : Char} {rest : List Char} :
    leftmost (c :: rest) = none ↔ Operator.leading (c :: rest) = none ∧ leftmost rest = none := by
  cases h : Operator.leading (c :: rest) <;> simp [leftmost, h]

theorem leftmost_eq_none_iff {text : List Char} :
    leftmost text = none ↔ ∀ op : Operator, ¬ op.chars <:+: text := by
  induction text with
  | nil =>
    exact iff_of_true rfl fun op hop => op.chars_ne_nil (List.infix_nil.mp hop)
  | cons c rest ih =>
    simp only [leftmost_cons_eq_none_iff, Operator.leading_eq_none_iff, ih, List.infix_cons_iff, not_or,
      forall_and]

theorem leftmost_eq_some_iff {text field value : List Char} {op : Operator} :
    leftmost text = some (field, op, value) ↔
      text = field ++ (op.chars ++ value) ∧ Quiet field (op.chars ++ value) ∧
        Operator.leading (op.chars ++ value) = some (op, value) := by
  constructor
  · intro h
    induction text generalizing field with
    | nil => cases h
    | cons c rest ih =>
      unfold leftmost at h
      split at h
      · next hleading =>
        cases h
        have htext := Operator.append_eq_of_leading hleading
        exact ⟨htext.symm, trivial, htext ▸ hleading⟩
      · next hleading =>
        obtain ⟨⟨later, found, after⟩, hlater, heq⟩ := Option.map_eq_some_iff.mp h
        cases heq
        obtain ⟨rfl, hquiet, hfound⟩ := ih hlater
        exact ⟨rfl, ⟨hleading, hquiet⟩, hfound⟩
  · rintro ⟨rfl, hquiet, hleading⟩
    rw [leftmost_append hquiet, leftmost_of_leading hleading]
    simp

theorem Quiet.leftmost_eq_none {front rest : List Char} (h : Quiet front rest) : leftmost front = none := by
  induction front with
  | nil => rfl
  | cons c front ih =>
    obtain ⟨hc, hfront⟩ := h
    exact leftmost_cons_eq_none_iff.mpr ⟨Operator.leading_eq_none_of_append hc, ih hfront⟩

-- ---------------------------------------------------------------------------
-- Apart and together again
-- ---------------------------------------------------------------------------

theorem leftmost_eq_some {text field value : List Char} {op : Operator}
    (h : leftmost text = some (field, op, value)) :
    text = field ++ (op.chars ++ value) ∧ leftmost field = none := by
  obtain ⟨htext, hquiet, -⟩ := leftmost_eq_some_iff.mp h
  exact ⟨htext, hquiet.leftmost_eq_none⟩

theorem split_eq_some {text field value : List Char} {op : Operator}
    (h : split text = some (field, op, value)) :
    text = field ++ (op.chars ++ value) ∧ split field = none := by
  unfold split at h
  split at h
  · cases h
  · next rest =>
    obtain ⟨⟨later, found, after⟩, hlater, heq⟩ := Option.map_eq_some_iff.mp h
    cases heq
    obtain ⟨rfl, hnone⟩ := leftmost_eq_some hlater
    exact ⟨rfl, by simp only [split, hnone, Option.map_none]⟩
  · next c rest hfree =>
    obtain ⟨⟨later, found, after⟩, hlater, heq⟩ := Option.map_eq_some_iff.mp h
    cases heq
    obtain ⟨rfl, hnone⟩ := leftmost_eq_some hlater
    refine ⟨rfl, ?_⟩
    unfold split
    split
    · rfl
    · next heq =>
      -- A `==` at the start of the field would be one at the start of the text.
      cases heq
      exact absurd rfl (hfree _ rfl)
    · next heq =>
      cases heq
      simp only [hnone, Option.map_none]

theorem compose_parse (text : String) :
    compose (parse text).fieldName (parse text).symbol (parse text).rawValue = text := by
  unfold parse
  split
  · next field op value h =>
    obtain ⟨htext, -⟩ := split_eq_some h
    apply String.toList_inj.mp
    simp [compose, symbol, Operator.toList_symbol, htext]
  · simp [compose, symbol]

theorem parse_fieldName (text : String) :
    parse (parse text).fieldName = ⟨(parse text).fieldName, none, "", (parse text).fieldName⟩ := by
  have hnone : split (parse text).fieldName.toList = none := by
    unfold parse
    split
    · next h =>
      rw [String.toList_ofList]
      exact (split_eq_some h).2
    · next h => exact h
  rw [parse, hnone]

-- ---------------------------------------------------------------------------
-- Together and apart again
-- ---------------------------------------------------------------------------

theorem parse_of_split {text : String} {field value : List Char} {op : Operator}
    (h : split text.toList = some (field, op, value)) :
    parse text = ⟨String.ofList field, some op, String.ofList value, text⟩ := by
  rw [parse, h]

/-- Behind a name that does not run into its operator, the operator is the one
that leads the rest of the clause, which is not always the one put there. -/
theorem parse_compose_of_leading {name value : String} {op found : Operator} {rest : List Char}
    (hname : isAsciiIdentifier name.toList = true) (hfree : ¬ RunsInto name op)
    (h : Operator.leading (op.chars ++ value.toList) = some (found, rest)) :
    parse (compose name op.symbol value) =
      ⟨name, some found, String.ofList rest, compose name op.symbol value⟩ := by
  obtain ⟨c, front, hchars, hc, hfront⟩ := Text.isAsciiIdentifier_eq_true_iff.mp hname
  rw [runsInto_iff_of_toList hchars] at hfree
  have hquiet := quiet_append_chars hfront hfree value.toList
  have hsplit := split_of_quiet (ne_equals_of_isAsciiStart hc) hquiet h
  have htext := toList_compose name op value
  rw [hchars, List.cons_append] at htext
  rw [parse_of_split (htext ▸ hsplit), ← hchars, String.ofList_toList]

/-- An identifier, an operator and a value are found again in the clause made
of them just if neither the name runs into the operator nor the operator
takes in a character of the value. -/
theorem parse_compose_iff {name : String} (hname : isAsciiIdentifier name.toList = true)
    (op : Operator) (value : String) :
    parse (compose name op.symbol value) = ⟨name, some op, value, compose name op.symbol value⟩ ↔
      ¬ RunsInto name op ∧ ¬ op.TakesIn value.toList := by
  constructor
  · intro h
    have hfree : ¬ RunsInto name op := (fieldOf_compose_iff hname op value).mp (congrArg fieldName h)
    obtain ⟨⟨found, rest⟩, hfound⟩ := Operator.exists_leading_append op value.toList
    have hparse := h.symm.trans (parse_compose_of_leading hname hfree hfound)
    injection hparse with _ hop hvalue _
    cases hop
    rw [hvalue, String.toList_ofList] at hfound ⊢
    exact ⟨hfree, Operator.leading_append_eq_some_iff.mp hfound⟩
  · rintro ⟨hfree, hvalue⟩
    have hleading := Operator.leading_append_eq_some_iff.mpr hvalue
    rw [parse_compose_of_leading hname hfree hleading, String.ofList_toList]

end Clause

end ListQuery
