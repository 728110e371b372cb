import ListQuery.Clause
import ListQuery.Proofs.Text.Identifier
import Mathlib.Data.List.Basic

/-!
# Laws of clauses

Where a composed clause comes apart again. A name that is an identifier is
found in front of every operator, save that the `_` at its end and the first
`=` of an equality are taken for an operator of their own.
-/

namespace ListQuery

open Text (isAsciiStart isAsciiContinue isAsciiIdentifier isAsciiContinue_of_isAsciiStart)

-- ---------------------------------------------------------------------------
-- Operators at the head of a text
-- ---------------------------------------------------------------------------

namespace Operator

theorem leading_eq_none_iff {text : List Char} :
    leading text = none ↔ ∀ op : Operator, ¬ op.chars <+: text := by
  simp only [leading, List.findSome?_eq_none_iff, Option.map_eq_none_iff]
  constructor
  · rintro h op ⟨value, hvalue⟩
    have hsome := List.isPrefixOf?_eq_some_iff_append_eq.mpr hvalue
    rw [h op (mem_priority op)] at hsome
    cases hsome
  · intro h op _
    cases hrest : op.chars.isPrefixOf? text with
    | none => rfl
    | some value => exact absurd ⟨value, List.isPrefixOf?_eq_some_iff_append_eq.mp hrest⟩ (h op)

/-- An operator leads wherever a symbol stands, if not always the one whose
symbol it is. -/
theorem exists_leading_append (op : Operator) (value : List Char) :
    ∃ found, leading (op.chars ++ value) = some found := by
  cases h : leading (op.chars ++ value) with
  | none => exact absurd (List.prefix_append _ _) (leading_eq_none_iff.mp h op)
  | some found => exact ⟨found, rfl⟩

theorem leading_startsWith (value : List Char) :
    leading ('_' :: '=' :: value) = some (startsWith, value) := rfl

/-- The only operator that a character of an identifier begins is `_=`. -/
theorem leading_eq_none_of_isAsciiContinue {c : Char} {rest : List Char} (hc : isAsciiContinue c = true)
    (h : ¬ (c = '_' ∧ rest.head? = some '=')) : leading (c :: rest) = none := by
  refine leading_eq_none_iff.mpr fun op hop => ?_
  cases op with
  | startsWith =>
    obtain ⟨hunderscore, value, rfl⟩ := List.cons_prefix_cons.mp hop
    exact h ⟨hunderscore.symm, rfl⟩
  | _ =>
    obtain ⟨rfl, -⟩ := List.cons_prefix_cons.mp hop
    exact absurd hc (by decide)

end Operator

-- ---------------------------------------------------------------------------
-- The leftmost operator
-- ---------------------------------------------------------------------------

namespace Clause

/-- No operator begins within `front` if `rest` follows it. -/
def Quiet : List Char → List Char → Prop
  | [], _ => True
  | c :: front, rest => Operator.leading (c :: (front ++ rest)) = none ∧ Quiet front rest

theorem leftmost_append {front rest : List Char} (h : Quiet front rest) :
    leftmost (front ++ rest) =
      (leftmost rest).map fun (field, op, value) => (front ++ field, op, value) := by
  induction front with
  | nil => simp
  | cons c front ih =>
    obtain ⟨hc, hfront⟩ := h
    simp only [List.cons_append, leftmost, hc, ih hfront, Option.map_map]
    rfl

theorem leftmost_of_leading {text value : List Char} {op : Operator}
    (h : Operator.leading text = some (op, value)) : leftmost text = some ([], op, value) := by
  cases text with
  | nil => cases h
  | cons c rest => simp only [leftmost, h]

theorem quiet_of_isAsciiContinue {front rest : List Char} (hfront : ∀ c ∈ front, isAsciiContinue c = true)
    (hend : ¬ (front.getLast? = some '_' ∧ rest.head? = some '=')) : Quiet front rest := by
  induction front with
  | nil => trivial
  | cons c front ih =>
    have hc := hfront c List.mem_cons_self
    have hlater : ∀ d ∈ front, isAsciiContinue d = true := fun d hd => hfront d (List.mem_cons_of_mem _ hd)
    cases front with
    | nil =>
      refine ⟨Operator.leading_eq_none_of_isAsciiContinue hc ?_, trivial⟩
      rintro ⟨rfl, hequals⟩
      exact hend ⟨rfl, hequals⟩
    | cons d front =>
      -- What follows `c` is a character of the name, which is no `=`.
      refine ⟨Operator.leading_eq_none_of_isAsciiContinue hc ?_, ih hlater ?_⟩
      · rintro ⟨-, hequals⟩
        obtain rfl := Option.some.inj hequals
        exact absurd (hlater _ List.mem_cons_self) (by decide)
      · rwa [List.getLast?_cons_cons] at hend

theorem split_cons {c : Char} (hc : c ≠ '=') (rest : List Char) :
    split (c :: rest) = (leftmost rest).map fun (field, op, value) => (c :: field, op, value) := by
  unfold split
  split
  · next h => cases h
  · next h => exact absurd (List.cons.inj h).1 hc
  · next h =>
    cases h
    rfl

theorem split_of_quiet {c : Char} {front text value : List Char} {op : Operator} (hc : c ≠ '=')
    (hfront : Quiet front text) (htext : Operator.leading text = some (op, value)) :
    split (c :: (front ++ text)) = some (c :: front, op, value) := by
  rw [split_cons hc, leftmost_append hfront, leftmost_of_leading htext]
  simp

-- ---------------------------------------------------------------------------
-- Names that are identifiers
-- ---------------------------------------------------------------------------

section
variable {c : Char} {front : List Char} {op : Operator}

theorem head?_chars_append {value : List Char} (h : (op.chars ++ value).head? = some '=') :
    op = .equals := by
  cases op with
  | equals => rfl
  | _ => exact absurd (Option.some.inj h) (by decide)

theorem ne_equals_of_isAsciiStart (hc : isAsciiStart c = true) : c ≠ '=' := by
  rintro rfl
  exact absurd hc (by decide)

theorem quiet_append_chars (hfront : ∀ d ∈ front, isAsciiContinue d = true)
    (hfree : ¬ (op = .equals ∧ front.getLast? = some '_')) (value : List Char) :
    Quiet front (op.chars ++ value) := by
  refine quiet_of_isAsciiContinue hfront ?_
  rintro ⟨hlast, hhead⟩
  exact hfree ⟨head?_chars_append hhead, hlast⟩

theorem exists_split_append (hc : isAsciiStart c = true) (hfront : ∀ d ∈ front, isAsciiContinue d = true)
    (hfree : ¬ (op = .equals ∧ front.getLast? = some '_')) (value : List Char) :
    ∃ found rest, split (c :: (front ++ (op.chars ++ value))) = some (c :: front, found, rest) := by
  obtain ⟨⟨found, rest⟩, hfound⟩ := Operator.exists_leading_append op value
  have hquiet := quiet_append_chars hfront hfree value
  exact ⟨found, rest, split_of_quiet (ne_equals_of_isAsciiStart hc) hquiet hfound⟩

/-- In `a_==b` the leftmost operator is `_=`. -/
theorem split_append_underscore (hc : isAsciiStart c = true)
    (hfront : ∀ d ∈ front, isAsciiContinue d = true) (value : List Char) :
    split (c :: (front ++ '_' :: '=' :: '=' :: value)) = some (c :: front, .startsWith, '=' :: value) := by
  have hquiet : Quiet front ('_' :: '=' :: '=' :: value) := by
    refine quiet_of_isAsciiContinue hfront ?_
    rintro ⟨-, hhead⟩
    cases hhead
  exact split_of_quiet (ne_equals_of_isAsciiStart hc) hquiet (Operator.leading_startsWith _)

end

/-- A name runs into the operator behind it if the two are read as another
name and another operator: `a_` and `==` as `a`, `_=` and a value that starts
with `=`. The name `_` does not, since no operator begins a text. -/
def RunsInto (name : String) (op : Operator) : Prop :=
  op = .equals ∧ 2 ≤ name.toList.length ∧ name.toList.getLast? = some '_'

instance (name : String) (op : Operator) : Decidable (RunsInto name op) :=
  inferInstanceAs (Decidable (_ ∧ _ ∧ _))

theorem runsInto_iff_of_toList {name : String} {op : Operator} {c : Char} {front : List Char}
    (h : name.toList = c :: front) :
    RunsInto name op ↔ op = .equals ∧ front.getLast? = some '_' := by
  unfold RunsInto
  rw [h]
  cases front with
  | nil => simp
  | cons d front => simp

theorem ne_nil_of_split {text field value : List Char} {op : Operator}
    (h : split text = some (field, op, value)) : field ≠ [] := by
  unfold split at h
  split at h
  · cases h
  all_goals
    obtain ⟨⟨later, found, after⟩, -, heq⟩ := Option.map_eq_some_iff.mp h
    cases heq
    exact List.cons_ne_nil _ _

theorem fieldOf_eq_empty_iff {text : String} : fieldOf text = "" ↔ text = "" := by
  constructor
  · intro h
    unfold fieldOf parse at h
    split at h
    · next field op value hsplit =>
      have hfield : field = [] := by simpa using congrArg String.toList h
      exact absurd hfield (ne_nil_of_split hsplit)
    · exact h
  · rintro rfl
    rfl

theorem fieldOf_of_split {text : String} {field value : List Char} {op : Operator}
    (h : split text.toList = some (field, op, value)) : fieldOf text = String.ofList field := by
  simp only [fieldOf, parse, h]

theorem toList_compose (field : String) (op : Operator) (value : String) :
    (compose field op.symbol value).toList = field.toList ++ (op.chars ++ value.toList) := by
  simp [compose, Operator.toList_symbol]

theorem compose_ne_empty (field : String) (op : Operator) (value : String) :
    compose field op.symbol value ≠ "" := by
  intro h
  have hchars := toList_compose field op value
  rw [h, String.toList_empty, List.nil_eq_append_iff, List.append_eq_nil_iff] at hchars
  obtain ⟨-, hop, -⟩ := hchars
  cases op <;> cases hop

/-- An identifier is found again in front of any operator and value, unless it
runs into the operator. -/
theorem fieldOf_compose_iff {name : String} (hname : isAsciiIdentifier name.toList = true)
    (op : Operator) (value : String) :
    fieldOf (compose name op.symbol value) = name ↔ ¬ RunsInto name op := by
  obtain ⟨c, front, hchars, hc, hfront⟩ := Text.isAsciiIdentifier_eq_true_iff.mp hname
  have htext := toList_compose name op value
  rw [hchars, List.cons_append] at htext
  rw [runsInto_iff_of_toList hchars]
  constructor
  · rintro hfield ⟨rfl, hlast⟩
    obtain ⟨shorter, rfl⟩ := List.getLast?_eq_some_iff.mp hlast
    have hsplit := split_append_underscore hc (fun d hd => hfront d (List.mem_append_left _ hd)) value.toList
    rw [List.append_assoc] at htext
    have hshort := hfield.symm.trans (fieldOf_of_split (htext ▸ hsplit))
    have hback := congrArg String.toList hshort
    rw [hchars, String.toList_ofList] at hback
    simpa using congrArg List.length hback
  · intro hfree
    obtain ⟨found, rest, hsplit⟩ := exists_split_append hc hfront hfree value.toList
    rw [← htext] at hsplit
    rw [fieldOf_of_split hsplit, ← hchars, String.ofList_toList]

end Clause

end ListQuery
