import ListQuery.Proofs.Query.Basic
import ListQuery.Query.Reading
import ListQuery.Query.Step

/-!
# Laws of steps

The texts of a query after a step were there before, or the step has pushed
them and they are not empty. What all steps keep, runs keep.
-/

namespace ListQuery

variable {F : Type}

def Step.pushed (S : Schema F) (fieldCase : FieldCase) : Step F → Option String
  | .filter clause | .replaceFilter clause => some (clause.text S fieldCase)
  | .filterByName name symbol value | .replaceFilterByName name symbol value =>
    some (Clause.compose name symbol value.format)
  | .sortBy field => some (SortKey.compose (S.wireName fieldCase field) false)
  | .sortByDescending field => some (SortKey.compose (S.wireName fieldCase field) true)
  | .sortByName name descending => some (SortKey.compose name descending)
  | .removeFilters _ | .removeFiltersByName _ | .clearFilters | .clearSorts | .page _ | .pageSize _ =>
    none

namespace Query

theorem mem_texts_apply {S : Schema F} {q : Query} {step : Step F} {text : String}
    (h : text ∈ (q.apply S step).texts) :
    text ∈ q.texts ∨ (step.pushed S q.options.fieldCase = some text ∧ text ≠ "") := by
  cases step with
  | filter clause => exact (mem_texts_pushFilter h).imp_right (And.imp_left (congrArg some))
  | replaceFilter clause =>
    exact (mem_texts_pushFilter h).imp mem_texts_removeByName (And.imp_left (congrArg some))
  | filterByName name symbol value =>
    exact (mem_texts_pushFilter h).imp_right (And.imp_left (congrArg some))
  | replaceFilterByName name symbol value =>
    exact (mem_texts_pushFilter h).imp mem_texts_removeByName (And.imp_left (congrArg some))
  | sortBy field => exact (mem_texts_pushSort h).imp_right (And.imp_left (congrArg some))
  | sortByDescending field => exact (mem_texts_pushSort h).imp_right (And.imp_left (congrArg some))
  | sortByName name descending => exact (mem_texts_pushSort h).imp_right (And.imp_left (congrArg some))
  | removeFilters field => exact .inl (mem_texts_removeByName h)
  | removeFiltersByName name => exact .inl (mem_texts_removeByName h)
  | clearFilters => exact .inl (mem_texts.mpr (.inr h))
  | clearSorts =>
    rcases mem_texts.mp h with hfilter | hsort
    · exact .inl (mem_texts.mpr (.inl hfilter))
    · cases hsort
  | page n => exact .inl h
  | pageSize n => exact .inl h

theorem options_apply (S : Schema F) (q : Query) (step : Step F) :
    (q.apply S step).options = q.options := by
  cases step <;> simp [apply, options_pushFilter, options_pushSort, options_removeByName]

theorem wireName_of_options {q r : Query} (h : r.options = q.options) (S : Schema F) (f : F) :
    r.wireName S f = q.wireName S f := by
  rw [wireName, h, wireName]

-- ---------------------------------------------------------------------------
-- Runs
-- ---------------------------------------------------------------------------

theorem run_cons (S : Schema F) (q : Query) (step : Step F) (steps : List (Step F)) :
    q.run S (step :: steps) =
      (((q.apply S step).run S steps).1, q.events S step ++ ((q.apply S step).run S steps).2) := rfl

/-- A property that holds at first and that each step of a run keeps holds at
the end of the run. The options are those of the first query all along. -/
theorem run_induction {S : Schema F} {P : Query → Prop} {q : Query} {steps : List (Step F)} (hq : P q)
    (hstep : ∀ step ∈ steps, ∀ r : Query, r.options = q.options → P r → P (r.apply S step)) :
    P (q.run S steps).1 := by
  induction steps generalizing q with
  | nil => exact hq
  | cons step steps ih =>
    have hnext : P (q.apply S step) := hstep step List.mem_cons_self q rfl hq
    refine ih hnext fun later hlater r hr => ?_
    exact hstep later (List.mem_cons_of_mem _ hlater) r (hr.trans (options_apply S q step))

theorem options_run (S : Schema F) (q : Query) (steps : List (Step F)) :
    (q.run S steps).1.options = q.options := by
  induction steps generalizing q with
  | nil => rfl
  | cons step steps ih => exact (ih (q.apply S step)).trans (options_apply S q step)

theorem filled_run {S : Schema F} {q : Query} (hq : q.Filled) (steps : List (Step F)) :
    (q.run S steps).1.Filled := by
  refine run_induction hq fun step _ r _ hr text htext => ?_
  rcases mem_texts_apply htext with hold | ⟨-, hne⟩
  · exact hr text hold
  · exact hne

theorem run_append (S : Schema F) (q : Query) (steps later : List (Step F)) :
    (q.run S (steps ++ later)).1 = ((q.run S steps).1.run S later).1 := by
  induction steps generalizing q with
  | nil => rfl
  | cons step steps ih => exact ih (q.apply S step)

end Query

/-- Where a run starts: at a query without anything, at one that was read from
a query string, or at one that was read from a record. -/
inductive Start where
  | fresh (options : Options)
  | queryString (raw : String) (options : Options)
  | record (record : Record) (options : Options)

def Start.query : Start → Query
  | fresh options => Query.withOptions options
  | queryString raw options => Query.parse raw options
  | record r options => Query.ofRecord r options

end ListQuery
