import ListQuery.Query.Step
import ListQuery.Proofs.Clause

/-!
# Laws of clauses on declared fields

Spelling a declared name makes no difference to the way it comes apart from
an operator, and a clause on a declared field is never empty.
-/

namespace ListQuery

open Text (isAsciiIdentifier)
open Clause (RunsInto)

-- ---------------------------------------------------------------------------
-- Names as they are spelled
-- ---------------------------------------------------------------------------

namespace FieldCase

theorem isAsciiIdentifier_apply (case : FieldCase) {name : String}
    (h : isAsciiIdentifier name.toList = true) : isAsciiIdentifier (case.apply name).toList = true := by
  cases case with
  | pascal =>
    simp only [apply, String.toList_ofList]
    exact Text.isAsciiIdentifier_capitalizeFirst h
  | asDeclared => exact h

/-- The spelling does not matter: it leaves all but the first character. -/
theorem runsInto_apply_iff (case : FieldCase) {name : String} (h : isAsciiIdentifier name.toList = true)
    (op : Operator) : RunsInto (case.apply name) op ↔ RunsInto name op := by
  cases case with
  | pascal =>
    obtain ⟨c, rest, hname, hc, -⟩ := Text.isAsciiIdentifier_eq_true_iff.mp h
    have happly : (pascal.apply name).toList = c.toUpper :: rest := by
      simp only [apply, String.toList_ofList, hname, Text.capitalizeFirst_of_isAsciiStart hc]
    rw [Clause.runsInto_iff_of_toList happly, Clause.runsInto_iff_of_toList hname]
  | asDeclared => rfl

end FieldCase

variable {F : Type}

def FieldClause.seen (S : Schema F) (fieldCase : FieldCase) (clause : FieldClause F) : Clause :=
  Clause.parse (clause.text S fieldCase)

theorem FieldClause.text_ne_empty (S : Schema F) (fieldCase : FieldCase) (clause : FieldClause F) :
    clause.text S fieldCase ≠ "" :=
  Clause.compose_ne_empty _ _ _

theorem FieldClause.fieldName_seen_iff {S : Schema F} {clause : FieldClause F}
    (hname : isAsciiIdentifier (S.name clause.field).toList = true) (fieldCase : FieldCase) :
    (clause.seen S fieldCase).fieldName = S.wireName fieldCase clause.field ↔
      ¬ RunsInto (S.name clause.field) clause.operator := by
  rw [← fieldCase.runsInto_apply_iff hname]
  exact Clause.fieldOf_compose_iff (fieldCase.isAsciiIdentifier_apply hname) _ _

end ListQuery
