import ListQuery.Proofs.Decomposition
import ListQuery.Proofs.Text.Size

/-!
# Where the operators stand

A clause is read at the leftmost operator behind the first character of its
text. The one exception is a text that begins with `===`: the first two
characters are taken together there, so the `==` behind the first is not seen.
-/

namespace ListQuery

-- ---------------------------------------------------------------------------
-- Places
-- ---------------------------------------------------------------------------

namespace Operator

/-- The symbol of the operator stands in the text, `index` octets behind its
start. -/
def StandsAt (op : Operator) (text : String) (index : Nat) : Prop :=
  ∃ before after : String, text = before ++ op.symbol ++ after ∧ before.utf8ByteSize = index

theorem standsAt_iff {op : Operator} {text : String} {index : Nat} :
    op.StandsAt text index ↔
      ∃ before rest, text.toList = before ++ rest ∧ op.chars <+: rest ∧ Text.size before = index := by
  constructor
  · rintro ⟨before, after, rfl, rfl⟩
    refine ⟨before.toList, op.chars ++ after.toList, ?_, List.prefix_append _ _, Text.size_toList before⟩
    simp [toList_symbol]
  · rintro ⟨before, _, htext, ⟨after, rfl⟩, rfl⟩
    refine ⟨String.ofList before, String.ofList after, String.toList_inj.mp ?_, rfl⟩
    simp [htext, toList_symbol]

theorem not_standsAt_empty (op : Operator) (index : Nat) : ¬ op.StandsAt "" index := by
  intro h
  obtain ⟨before, rest, hparts, hop, -⟩ := standsAt_iff.mp h
  obtain rfl : rest = [] := (List.append_eq_nil_iff.mp hparts.symm).2
  exact op.chars_ne_nil (List.prefix_nil.mp hop)

theorem exists_of_standsAt {op : Operator} {text : String} {index : Nat} (front : List Char) {rest : List Char}
    (htext : text.toList = front ++ rest) (hindex : Text.size front ≤ index) (h : op.StandsAt text index) :
    ∃ before later, rest = before ++ later ∧ op.chars <+: later ∧ Text.size (front ++ before) = index := by
  obtain ⟨all, later, hparts, hop, rfl⟩ := standsAt_iff.mp h
  have hfront : front <+: all := Text.prefix_of_size_le ⟨rest, htext.symm⟩ ⟨later, hparts.symm⟩ hindex
  obtain ⟨before, rfl⟩ := hfront
  rw [htext, List.append_assoc] at hparts
  exact ⟨before, later, List.append_cancel_left hparts, hop, rfl⟩

/-- No symbol stands in the middle of the first character. -/
theorem size_le_of_standsAt {op : Operator} {text : String} {index : Nat} {c : Char} {rest : List Char}
    (htext : text.toList = c :: rest) (hindex : 1 ≤ index) (h : op.StandsAt text index) :
    Text.size [c] ≤ index := by
  obtain ⟨before, later, hparts, -, rfl⟩ := standsAt_iff.mp h
  cases before with
  | nil => exact absurd (Text.size_eq_zero_iff.mpr rfl) (by omega)
  | cons d before =>
    obtain ⟨rfl, -⟩ := List.cons.inj (htext.symm.trans hparts)
    exact Text.size_le_of_isPrefix (List.prefix_append [c] before)

theorem exists_standsAt_iff {op : Operator} {text : String} {c : Char} {rest : List Char}
    (htext : text.toList = c :: rest) : (∃ index, 1 ≤ index ∧ op.StandsAt text index) ↔ op.chars <:+: rest := by
  constructor
  · rintro ⟨index, hindex, hstands⟩
    obtain ⟨before, later, rfl, hop, -⟩ :=
      exists_of_standsAt [c] htext (size_le_of_standsAt htext hindex hstands) hstands
    exact hop.isInfix.trans (List.suffix_append before later).isInfix
  · rintro ⟨before, after, rfl⟩
    refine ⟨Text.size (c :: before), Text.size_pos, standsAt_iff.mpr ?_⟩
    exact ⟨c :: before, op.chars ++ after, by simp [htext], List.prefix_append _ _, rfl⟩

theorem prefix_of_standsAt_one {op : Operator} {text : String} {c : Char} {rest : List Char}
    (htext : text.toList = c :: rest) (h : op.StandsAt text 1) : op.chars <+: rest := by
  have hfirst := size_le_of_standsAt htext (Nat.le_refl 1) h
  obtain ⟨before, later, rfl, hop, hsize⟩ := exists_of_standsAt [c] htext hfirst h
  obtain rfl : before = [] := by
    have hpos : 1 ≤ Text.size [c] := Text.size_pos
    rw [Text.size_append] at hsize
    exact Text.size_eq_zero_iff.mp (by omega)
  exact hop

theorem eq_equals_of_isPrefix {op : Operator} {rest : List Char} (h : op.chars <+: '=' :: rest) : op = .equals := by
  cases op with
  | equals => rfl
  | _ => exact absurd (List.cons_prefix_cons.mp h).1 (by decide)

/-- In a text that begins with `==`, an operator stands behind the first
character just if a third `=` follows. -/
theorem exists_standsAt_one_iff {text : String} {rest : List Char} (htext : text.toList = '=' :: '=' :: rest) :
    (∃ op : Operator, op.StandsAt text 1) ↔ "===".toList <+: text.toList := by
  constructor
  · rintro ⟨op, hstands⟩
    have hop := prefix_of_standsAt_one htext hstands
    obtain rfl := eq_equals_of_isPrefix hop
    rw [htext]
    exact (List.prefix_append_right_inj ['=']).mpr hop
  · rintro ⟨after, hafter⟩
    refine ⟨.equals, "=", String.ofList after, String.toList_inj.mp ?_, rfl⟩
    simp [← hafter, toList_symbol, chars]

theorem prior_of_leading {text value : List Char} {op : Operator}
    (h : leading text = some (op, value)) :
    ∃ others later, priority = others ++ op :: later ∧ ∀ e ∈ others, ¬ e.chars <+: text := by
  obtain ⟨others, found, later, hpriority, hfound, hothers⟩ := List.findSome?_eq_some_iff.mp h
  obtain ⟨rest, -, heq⟩ := Option.map_eq_some_iff.mp hfound
  cases heq
  refine ⟨others, later, hpriority, ?_⟩
  rintro e he ⟨after, hafter⟩
  have hnone := Option.map_eq_none_iff.mp (hothers e he)
  rw [List.isPrefixOf?_eq_some_iff_append_eq.mpr hafter] at hnone
  cases hnone

end Operator

namespace Clause

/-- The text comes apart at the operator that stands leftmost in it, not
counting what stands less than `start` octets behind its start. If several
stand at that place, it is the first of them in the order of priority. -/
structure LeftmostFrom (start : Nat) (text before : String) (op : Operator) (after : String) : Prop where
  parts : text = before ++ op.symbol ++ after
  behind : start ≤ before.utf8ByteSize
  leftmost : ∀ (e : Operator) (index : Nat), start ≤ index → e.StandsAt text index → before.utf8ByteSize ≤ index
  prior : ∃ others later, Operator.priority = others ++ op :: later ∧
    ∀ e ∈ others, ¬ e.StandsAt text before.utf8ByteSize

/-- The clause that a text is if it is read at its leftmost operator from
`start` on, and all field if there is none. -/
inductive ReadFrom (start : Nat) (text : String) : Clause → Prop
  | parts {before after : String} {op : Operator} (h : LeftmostFrom start text before op after) :
    ReadFrom start text ⟨before, some op, after, text⟩
  | whole (h : ∀ (e : Operator) (index : Nat), start ≤ index → ¬ e.StandsAt text index) :
    ReadFrom start text ⟨text, none, "", text⟩

section
variable {start : Nat} {text before before' after after' : String} {op op' : Operator}

theorem LeftmostFrom.standsAt (h : LeftmostFrom start text before op after) :
    op.StandsAt text before.utf8ByteSize :=
  ⟨before, after, h.parts, rfl⟩

theorem LeftmostFrom.operator_unique (h : LeftmostFrom start text before op after)
    (h' : LeftmostFrom start text before op' after') : op = op' := by
  obtain ⟨others, later, hpriority, hothers⟩ := h.prior
  obtain ⟨others', later', hpriority', hothers'⟩ := h'.prior
  -- Of two operators at one place, neither comes before the other.
  rcases List.append_eq_append_iff.mp (hpriority.symm.trans hpriority') with
    ⟨between, rfl, hbetween⟩ | ⟨between, rfl, hbetween⟩
  · cases between with
    | nil => exact (List.cons.inj hbetween).1
    | cons e between =>
      obtain ⟨rfl, -⟩ := List.cons.inj hbetween
      exact absurd h.standsAt (hothers' op (by simp))
  · cases between with
    | nil => exact (List.cons.inj hbetween).1.symm
    | cons e between =>
      obtain ⟨rfl, -⟩ := List.cons.inj hbetween
      exact absurd h'.standsAt (hothers op' (by simp))

theorem LeftmostFrom.unique (h : LeftmostFrom start text before op after)
    (h' : LeftmostFrom start text before' op' after') : before = before' ∧ op = op' ∧ after = after' := by
  have hle := h.leftmost op' _ h'.behind h'.standsAt
  have hge := h'.leftmost op _ h.behind h.standsAt
  have hprefix : before.toList <+: text.toList := ⟨(op.symbol ++ after).toList, by simp [h.parts]⟩
  have hprefix' : before'.toList <+: text.toList := ⟨(op'.symbol ++ after').toList, by simp [h'.parts]⟩
  rw [← Text.size_toList, ← Text.size_toList] at hle hge
  have hbefore : before = before' := by
    have hone := Text.prefix_of_size_le hprefix hprefix' hle
    have hother := Text.prefix_of_size_le hprefix' hprefix hge
    exact String.toList_inj.mp (hone.eq_of_length (Nat.le_antisymm hone.length_le hother.length_le))
  subst hbefore
  obtain rfl := h.operator_unique h'
  refine ⟨rfl, rfl, String.toList_inj.mp ?_⟩
  have hparts := congrArg String.toList (h.parts.symm.trans h'.parts)
  simpa using hparts

theorem ReadFrom.unique {clause clause' : Clause} (h : ReadFrom start text clause)
    (h' : ReadFrom start text clause') : clause = clause' := by
  cases h with
  | whole h =>
    cases h' with
    | whole _ => rfl
    | parts h' => exact absurd h'.standsAt (h _ _ h'.behind)
  | parts h =>
    cases h' with
    | whole h' => exact absurd h.standsAt (h' _ _ h.behind)
    | parts h' =>
      obtain ⟨rfl, rfl, rfl⟩ := h.unique h'
      rfl

end

theorem ReadFrom.of_gap {start later : Nat} {text : String} {clause : Clause} (hle : start ≤ later)
    (hgap : ∀ (e : Operator) (index : Nat), start ≤ index → index < later → ¬ e.StandsAt text index)
    (h : ReadFrom later text clause) : ReadFrom start text clause := by
  have hlater : ∀ (e : Operator) (index : Nat), start ≤ index → e.StandsAt text index → later ≤ index :=
    fun e index hindex hstands => Nat.le_of_not_lt fun hlt => hgap e index hindex hlt hstands
  cases h with
  | parts h =>
    refine .parts ⟨h.parts, Nat.le_trans hle h.behind, fun e index hindex hstands => ?_, h.prior⟩
    exact h.leftmost e index (hlater e index hindex hstands) hstands
  | whole h =>
    exact .whole fun e index hindex hstands => h e index (hlater e index hindex hstands) hstands

-- ---------------------------------------------------------------------------
-- The leftmost operator
-- ---------------------------------------------------------------------------

theorem Quiet.prefix_of_isPrefix {front rest before later : List Char} {op : Operator} (h : Quiet front rest)
    (hparts : front ++ rest = before ++ later) (hop : op.chars <+: later) : front <+: before := by
  induction front generalizing before with
  | nil => exact List.nil_prefix
  | cons c front ih =>
    obtain ⟨hc, hlater⟩ := h
    cases before with
    | nil =>
      obtain rfl : c :: (front ++ rest) = later := hparts
      exact absurd hop (Operator.leading_eq_none_iff.mp hc op)
    | cons d before =>
      obtain ⟨hhead, htail⟩ := List.cons.inj hparts
      exact List.cons_prefix_cons.mpr ⟨hhead, ih hlater htail⟩

theorem readFrom_size {text : String} (front : List Char) {rest : List Char} (htext : text.toList = front ++ rest)
    (hsplit : split text.toList = (leftmost rest).map fun (field, op, value) => (front ++ field, op, value)) :
    ReadFrom (Text.size front) text (parse text) := by
  cases hleft : leftmost rest with
  | none =>
    rw [parse, hsplit, hleft]
    refine .whole fun e index hindex hstands => ?_
    obtain ⟨before, later, rfl, he, -⟩ := Operator.exists_of_standsAt front htext hindex hstands
    exact leftmost_eq_none_iff.mp hleft e (he.isInfix.trans (List.suffix_append before later).isInfix)
  | some found =>
    obtain ⟨field, op, value⟩ := found
    obtain ⟨rfl, hquiet, hleading⟩ := leftmost_eq_some_iff.mp hleft
    rw [hleft] at hsplit
    rw [parse_of_split hsplit]
    obtain ⟨others, later, hpriority, hothers⟩ := Operator.prior_of_leading hleading
    refine .parts ⟨String.toList_inj.mp ?_, Text.size_le_of_isPrefix (List.prefix_append front field), ?_,
      others, later, hpriority, ?_⟩
    · simp [htext, Operator.toList_symbol]
    · intro e index hindex hstands
      obtain ⟨before, later, hparts, he, rfl⟩ := Operator.exists_of_standsAt front htext hindex hstands
      have hfield : field <+: before := hquiet.prefix_of_isPrefix hparts he
      exact Text.size_le_of_isPrefix ((List.prefix_append_right_inj front).mpr hfield)
    · intro e he hstands
      obtain ⟨before, later, hparts, hlater, hsize⟩ :=
        Operator.exists_of_standsAt front htext (Text.size_le_of_isPrefix (List.prefix_append front field)) hstands
      obtain ⟨more, rfl⟩ := hquiet.prefix_of_isPrefix hparts hlater
      -- The place is that of the operator found, so the text from there on is the same.
      obtain rfl : more = [] := by
        have hsizes : Text.size (front ++ (field ++ more)) = Text.size (front ++ field) := hsize
        rw [← List.append_assoc, Text.size_append] at hsizes
        exact Text.size_eq_zero_iff.mp (by omega)
      rw [List.append_nil] at hparts
      obtain rfl := List.append_cancel_left hparts
      exact hothers e he hlater

theorem split_cons_of_not_isPrefix {c : Char} {rest : List Char} (h : ¬ ['=', '='] <+: c :: rest) :
    split (c :: rest) = (leftmost rest).map fun (field, op, value) => ([c] ++ field, op, value) := by
  unfold split
  split
  · next heq => cases heq
  · next heq => exact absurd ⟨_, heq.symm⟩ h
  · next heq =>
    cases heq
    rfl

theorem leading_of_split {text field value : List Char} {op : Operator}
    (h : split text = some (field, op, value)) : Operator.leading (op.chars ++ value) = some (op, value) := by
  unfold split at h
  split at h
  · cases h
  all_goals
    obtain ⟨⟨later, found, after⟩, hlater, heq⟩ := Option.map_eq_some_iff.mp h
    cases heq
    exact (leftmost_eq_some_iff.mp hlater).2.2

/-- A `==` at the start of a text is passed over as a whole. -/
theorem readFrom_parse (text : String) :
    ReadFrom (if "==".toList <+: text.toList then 2 else 1) text (parse text) := by
  split
  · next h =>
    obtain ⟨rest, hrest⟩ := h
    exact readFrom_size ['=', '='] hrest.symm (hrest ▸ rfl)
  · next h =>
    cases htext : text.toList with
    | nil =>
      obtain rfl := String.toList_eq_nil_iff.mp htext
      exact .whole fun e index _ hstands => Operator.not_standsAt_empty e index hstands
    | cons c rest =>
      have hread : ReadFrom (Text.size [c]) text (parse text) :=
        readFrom_size [c] htext (htext ▸ split_cons_of_not_isPrefix (htext ▸ h))
      refine hread.of_gap Text.size_pos fun e index hindex hlt hstands => ?_
      exact absurd (Operator.size_le_of_standsAt htext hindex hstands) (Nat.not_le_of_lt hlt)

theorem readFrom_one_iff (text : String) :
    ReadFrom 1 text (parse text) ↔ ¬ "===".toList <+: text.toList := by
  have hread := readFrom_parse text
  by_cases hequals : "==".toList <+: text.toList
  · obtain ⟨rest, hrest⟩ := hequals
    rw [if_pos ⟨rest, hrest⟩] at hread
    rw [← Operator.exists_standsAt_one_iff hrest.symm]
    constructor
    · rintro hone ⟨op, hstands⟩
      generalize parse text = clause at hone hread
      cases hone with
      | whole h => exact h op 1 (Nat.le_refl 1) hstands
      | parts h =>
        cases hread with
        | parts hlater =>
          have hle := h.leftmost op 1 (Nat.le_refl 1) hstands
          exact absurd (Nat.le_trans hlater.behind hle) (by decide)
    · intro hnone
      refine hread.of_gap (by decide) fun e index hindex hlt hstands => hnone ⟨e, ?_⟩
      obtain rfl : index = 1 := by omega
      exact hstands
  · rw [if_neg hequals] at hread
    refine iff_of_true hread fun hthree => hequals ?_
    exact List.IsPrefix.trans (by decide) hthree

/-- A clause is read at the leftmost operator behind its first character, and of
those at one place at the first in the order of priority, just if it does not
begin with `===`. The two `=` that it begins with are passed over, whatever
follows. A bare comparison is never read where an `=` follows. -/
theorem read_at_leftmost_operator_iff (text : String) :
    (ReadFrom 1 text (parse text) ↔ ¬ "===".toList <+: text.toList) ∧
      ReadFrom (if "==".toList <+: text.toList then 2 else 1) text (parse text) ∧
      ∀ op, (parse text).operator = some op → ¬ op.TakesIn (parse text).rawValue.toList := by
  refine ⟨readFrom_one_iff text, readFrom_parse text, fun op hop => ?_⟩
  cases hsplit : split text.toList with
  | none =>
    rw [parse, hsplit] at hop
    cases hop
  | some found =>
    obtain ⟨field, other, value⟩ := found
    rw [parse_of_split hsplit] at hop ⊢
    cases hop
    rw [String.toList_ofList]
    exact Operator.leading_append_eq_some_iff.mp (leading_of_split hsplit)

/-- In `===x` an equality stands behind the first character, but the text is
read as all field. -/
theorem three_equals_are_not_read_at_leftmost_operator :
    LeftmostFrom 1 "===x" "=" .equals "x" ∧ parse "===x" = ⟨"===x", none, "", "===x"⟩ ∧
      ¬ ReadFrom 1 "===x" (parse "===x") := by
  have hleft : LeftmostFrom 1 "===x" "=" .equals "x" :=
    ⟨by decide, by decide, fun _ _ hindex _ => hindex, [], _, rfl, fun _ he => nomatch he⟩
  refine ⟨hleft, by decide +kernel, fun h => ?_⟩
  exact absurd (h.unique (.parts hleft)) (by decide +kernel)

end Clause

end ListQuery
