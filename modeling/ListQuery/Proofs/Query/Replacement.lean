import ListQuery.Proofs.FieldClause
import ListQuery.Proofs.Query.Step

/-!
# Replacing the clause on a field

A replacement is to leave one clause on its field, the new one at the end.
It does for every declared name that is an identifier and does not run into
the operator; if it does run into it, the new clause counts for another field
and stays when it should be replaced.
-/

namespace ListQuery

open Text (isAsciiIdentifier)
open Clause (RunsInto)

variable {F : Type}

namespace Query

-- ---------------------------------------------------------------------------
-- One replacement and many
-- ---------------------------------------------------------------------------

def clausesOff (q : Query) (name : String) : List Clause :=
  q.clauses.filter (·.fieldName != name)

theorem fieldName_ne_of_mem_clausesOff {q : Query} {name : String} {clause : Clause}
    (h : clause ∈ q.clausesOff name) : clause.fieldName ≠ name := by
  simpa using (List.mem_filter.mp h).2

theorem clauses_removeByName (q : Query) (name : String) :
    (q.removeByName name).clauses = q.clausesOff name := by
  rw [clauses, filters_removeByName, clausesOff, clauses, List.filter_map]
  rfl

theorem hasFilter_eq_any (q : Query) (name : String) :
    q.hasFilter name = q.clauses.any (·.fieldName == name) := by
  rw [hasFilter, clauses, List.any_map]
  rfl

theorem clauses_replaceFilter (S : Schema F) (q : Query) (clause : FieldClause F) :
    (q.apply S (.replaceFilter clause)).clauses =
      q.clausesOff (q.wireName S clause.field) ++ [clause.seen S q.options.fieldCase] := by
  rw [← clauses_removeByName]
  simp only [apply, clauses, filters_pushFilter, clause.text_ne_empty, if_false, List.map_append]
  rfl

theorem clausesOff_replaceFilter (S : Schema F) (q : Query) (clause : FieldClause F) :
    (q.apply S (.replaceFilter clause)).clausesOff (q.wireName S clause.field) =
      q.clausesOff (q.wireName S clause.field) ++
        [clause.seen S q.options.fieldCase].filter (·.fieldName != q.wireName S clause.field) := by
  rw [clausesOff, clauses_replaceFilter, List.filter_append]
  simp [clausesOff, List.filter_filter]

/-- Replacements on one field leave the clauses on other fields. What they add
themselves stays only as far as it is not seen on the field. -/
theorem clausesOff_run_replaceFilter (S : Schema F) (f : F) (q : Query) {clauses : List (FieldClause F)}
    (hfield : ∀ clause ∈ clauses, clause.field = f) :
    (q.run S (clauses.map .replaceFilter)).1.clausesOff (q.wireName S f) =
      q.clausesOff (q.wireName S f) ++
        (clauses.map (·.seen S q.options.fieldCase)).filter (·.fieldName != q.wireName S f) := by
  induction clauses generalizing q with
  | nil => simp [run]
  | cons clause clauses ih =>
    have hoptions := options_apply S q (.replaceFilter clause)
    have hname := wireName_of_options hoptions S f
    have hstep := clausesOff_replaceFilter S q clause
    have hlater := ih (q.apply S (.replaceFilter clause)) fun d hd => hfield d (List.mem_cons_of_mem _ hd)
    rw [hfield clause List.mem_cons_self] at hstep
    rw [hname, hoptions, hstep, List.append_assoc, ← List.filter_append] at hlater
    exact hlater

theorem clauses_run_append_replaceFilter (S : Schema F) (q : Query) (earlier : List (FieldClause F))
    (clause : FieldClause F) :
    (q.run S ((earlier ++ [clause]).map .replaceFilter)).1.clauses =
      (q.run S (earlier.map .replaceFilter)).1.clausesOff (q.wireName S clause.field) ++
        [clause.seen S q.options.fieldCase] := by
  have hoptions := options_run S q (earlier.map .replaceFilter)
  rw [List.map_append, run_append, ← wireName_of_options hoptions, ← hoptions]
  exact clauses_replaceFilter S _ clause

-- ---------------------------------------------------------------------------
-- What replacing is for
-- ---------------------------------------------------------------------------

/-- In `r` the clause is the only one on its field and the last of all. The
clauses that `q` has on other fields stand before it as they were. -/
structure ReplacedBy (S : Schema F) (q r : Query) (clause : FieldClause F) : Prop where
  present : r.hasFilterFor S clause.field = true
  single : r.clauses.countP (·.fieldName == q.wireName S clause.field) = 1
  last : r.clauses.getLast?.map (·.fieldName) = some (q.wireName S clause.field)
  kept : r.clauses = q.clausesOff (q.wireName S clause.field) ++ [clause.seen S q.options.fieldCase]

theorem replacedBy_iff_of_clauses {S : Schema F} {q r : Query} {clause : FieldClause F}
    {others : List Clause} (hoptions : r.options = q.options)
    (hothers : ∀ other ∈ others, other.fieldName ≠ q.wireName S clause.field)
    (hr : r.clauses = others ++ [clause.seen S q.options.fieldCase]) :
    ReplacedBy S q r clause ↔
      others = q.clausesOff (q.wireName S clause.field) ∧
        (clause.seen S q.options.fieldCase).fieldName = q.wireName S clause.field := by
  constructor
  · rintro ⟨-, -, hlast, hkept⟩
    rw [hr] at hlast hkept
    exact ⟨List.append_cancel_right hkept, by simpa using hlast⟩
  · rintro ⟨hkept, hseen⟩
    refine ⟨?_, ?_, ?_, hkept ▸ hr⟩
    · rw [hasFilterFor, wireName_of_options hoptions, hasFilter_eq_any, hr]
      simp [hseen]
    · have hnone : others.countP (·.fieldName == q.wireName S clause.field) = 0 :=
        List.countP_eq_zero.mpr fun other hother => by simpa using hothers other hother
      rw [hr, List.countP_append, hnone]
      simp [hseen]
    · rw [hr]
      simp [hseen]

theorem replacedBy_run_iff (S : Schema F) (q : Query) {clause : FieldClause F}
    (hname : isAsciiIdentifier (S.name clause.field).toList = true) {earlier : List (FieldClause F)}
    (hfield : ∀ e ∈ earlier, e.field = clause.field) :
    ReplacedBy S q (q.run S ((earlier ++ [clause]).map .replaceFilter)).1 clause ↔
      ∀ e ∈ earlier ++ [clause], ¬ RunsInto (S.name clause.field) e.operator := by
  have hseen : ∀ e : FieldClause F, e.field = clause.field →
      ((e.seen S q.options.fieldCase).fieldName = q.wireName S clause.field ↔
        ¬ RunsInto (S.name clause.field) e.operator) := by
    intro e he
    rw [← he] at hname ⊢
    exact FieldClause.fieldName_seen_iff hname q.options.fieldCase
  -- Nothing stays of an earlier clause just if it is seen on the field.
  have hearlier : (q.run S (earlier.map .replaceFilter)).1.clausesOff (q.wireName S clause.field) =
      q.clausesOff (q.wireName S clause.field) ↔
        ∀ e ∈ earlier, ¬ RunsInto (S.name clause.field) e.operator := by
    rw [clausesOff_run_replaceFilter S clause.field q hfield, List.append_right_eq_self,
      List.filter_eq_nil_iff, List.forall_mem_map]
    refine forall₂_congr fun e he => ?_
    rw [← hseen e (hfield e he)]
    simp
  rw [replacedBy_iff_of_clauses (options_run S q _) (fun _ => fieldName_ne_of_mem_clausesOff)
    (clauses_run_append_replaceFilter S q earlier clause), hearlier, hseen clause rfl]
  rw [List.forall_mem_append, List.forall_mem_singleton]

/-- A replacement keeps one clause on its field, however often it is repeated,
just if no name runs into an operator in it. -/
theorem replaceFilter_keeps_one_clause_iff (S : Schema F) (q : Query) {clause : FieldClause F}
    (hname : isAsciiIdentifier (S.name clause.field).toList = true) :
    (ReplacedBy S q (q.apply S (.replaceFilter clause)) clause ↔
      ¬ RunsInto (S.name clause.field) clause.operator) ∧
    ∀ earlier : List (FieldClause F), (∀ e ∈ earlier, e.field = clause.field) →
      (ReplacedBy S q (q.run S ((earlier ++ [clause]).map .replaceFilter)).1 clause ↔
        ∀ e ∈ earlier ++ [clause], ¬ RunsInto (S.name clause.field) e.operator) := by
  constructor
  · have hone := replacedBy_run_iff S q hname fun (e : FieldClause F) (he : e ∈ []) => nomatch he
    simpa [run] using hone
  · intro earlier hfield
    exact replacedBy_run_iff S q hname hfield

theorem replaceFilter_keeps_one_clause_of_live_search :
    let S := Schema.ofFields [⟨"title", "title"⟩, ⟨"likes_", "likes"⟩]
    let q := parse "filters=Title@=a,Likes_>=3,Title!=b" {}
    let earlier : List (FieldClause (Fin 2)) := [⟨0, .equals, .text "r"⟩, ⟨0, .contains, .text "ru"⟩]
    let clause : FieldClause (Fin 2) := ⟨0, .contains, .text "rust"⟩
    isAsciiIdentifier (S.name clause.field).toList = true ∧ (∀ e ∈ earlier, e.field = clause.field) ∧
      ReplacedBy S q (q.apply S (.replaceFilter clause)) clause ∧
      ReplacedBy S q (q.run S ((earlier ++ [clause]).map .replaceFilter)).1 clause := by
  intro S q earlier clause
  have hname : isAsciiIdentifier (S.name clause.field).toList = true := by decide
  have hfield : ∀ e ∈ earlier, e.field = clause.field := by decide
  obtain ⟨hone, hmany⟩ := replaceFilter_keeps_one_clause_iff S q hname
  exact ⟨hname, hfield, hone.mpr (by decide), (hmany earlier hfield).mpr (by decide)⟩

/-- `A_==v` counts for a field `A`, so it is neither found nor replaced. -/
theorem replaceFilter_misses_name_that_ends_in_underscore :
    let S := Schema.ofFields [⟨"a_", "a_"⟩]
    let clause : FieldClause (Fin 1) := ⟨0, .equals, .text "v"⟩
    let r := (withOptions {}).apply S (.replaceFilter clause)
    isAsciiIdentifier (S.name clause.field).toList = true ∧
      r.hasFilterFor S clause.field = false ∧
      ¬ ReplacedBy S (withOptions {}) r clause ∧
      (r.apply S (.replaceFilter clause)).filters = ["A_==v", "A_==v"] := by
  refine ⟨by decide +kernel, by decide +kernel, fun h => ?_, by decide +kernel⟩
  exact absurd h.present (by decide +kernel)

end Query

end ListQuery
