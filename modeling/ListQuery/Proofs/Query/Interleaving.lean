import ListQuery.Proofs.Query.Part
import ListQuery.Proofs.Query.Step
import ListQuery.Query.Wire

/-!
# Steps on different parts

A step reads and changes one part of a query only. So each part of the query
that a run ends in comes from the steps on that part alone, and the order in
which steps on different parts alternate makes no difference.
-/

namespace ListQuery

variable {F : Type}

namespace Step

def part : Step F → Part
  | .filter _ | .replaceFilter _ | .filterByName .. | .replaceFilterByName .. | .removeFilters _
  | .removeFiltersByName _ | .clearFilters => .filters
  | .sortBy _ | .sortByDescending _ | .sortByName .. | .clearSorts => .sorts
  | .page _ => .page
  | .pageSize _ => .pageSize

def page? : Step F → Option UInt32
  | .page n => some n
  | _ => none

def pageSize? : Step F → Option UInt32
  | .pageSize n => some n
  | _ => none

def on (part : Part) (steps : List (Step F)) : List (Step F) :=
  steps.filter (·.part = part)

theorem on_cons_of_part {part : Part} {step : Step F} (h : step.part = part) (steps : List (Step F)) :
    on part (step :: steps) = step :: on part steps :=
  List.filter_cons_of_pos (by simpa using h)

theorem on_cons_of_ne {part : Part} {step : Step F} (h : step.part ≠ part) (steps : List (Step F)) :
    on part (step :: steps) = on part steps :=
  List.filter_cons_of_neg (by simpa using h)

end Step

namespace Query

variable {S : Schema F}

-- ---------------------------------------------------------------------------
-- One step
-- ---------------------------------------------------------------------------

theorem pushFilter_eq_set (q : Query) (clause : String) :
    q.pushFilter clause = q.set (.filters (q.pushFilter clause).filters) := by
  unfold pushFilter
  split <;> rfl

theorem pushSort_eq_set (q : Query) (token : String) :
    q.pushSort token = q.set (.sorts (q.pushSort token).sorts) := by
  unfold pushSort
  split <;> rfl

/-- All that a step can do is to set its own part anew. -/
theorem exists_apply_eq_set (S : Schema F) (q : Query) (step : Step F) :
    ∃ assignment : Assignment, assignment.part = step.part ∧ q.apply S step = q.set assignment := by
  cases step with
  | filter | filterByName => exact ⟨.filters _, rfl, pushFilter_eq_set q _⟩
  | replaceFilter | replaceFilterByName =>
    exact ⟨.filters _, rfl, pushFilter_eq_set (q.removeByName _) _⟩
  | sortBy | sortByDescending | sortByName => exact ⟨.sorts _, rfl, pushSort_eq_set q _⟩
  | removeFilters | removeFiltersByName => exact ⟨.filters _, rfl, rfl⟩
  | clearFilters => exact ⟨.filters [], rfl, rfl⟩
  | clearSorts => exact ⟨.sorts [], rfl, rfl⟩
  | page n => exact ⟨.page n, rfl, rfl⟩
  | pageSize n => exact ⟨.pageSize n, rfl, rfl⟩

theorem content_apply_of_ne (q : Query) {step : Step F} {part : Part} (h : step.part ≠ part) :
    (q.apply S step).content part = q.content part := by
  obtain ⟨assignment, hpart, happly⟩ := exists_apply_eq_set S q step
  rw [happly, content_set, hpart, if_neg (Ne.symm h)]

section
variable {q r : Query} (hoptions : q.options = r.options)
include hoptions

theorem content_apply_congr {step : Step F} (h : q.content step.part = r.content step.part) :
    (q.apply S step).content step.part = (r.apply S step).content step.part := by
  cases step with
  | clearFilters | clearSorts | page | pageSize => rfl
  | sortBy | sortByDescending | sortByName =>
    have hsorts := content_sorts.mp h
    refine content_sorts.mpr ?_
    simp only [apply, sorts_pushSort, wireName, hsorts, hoptions]
  | _ =>
    have hfilters := content_filters.mp h
    refine content_filters.mpr ?_
    simp only [apply, filters_pushFilter, filters_removeByName, wireName, hfilters, hoptions]

theorem events_congr (h : q.filters = r.filters) (step : Step F) : q.events S step = r.events S step := by
  cases step <;> simp only [events, removalEvents_congr h, wireName, hoptions]

end

theorem events_of_part_ne (q : Query) {step : Step F} (h : step.part ≠ .filters) :
    q.events S step = [] := by
  cases step with
  | sortBy | sortByDescending | sortByName | clearSorts | page | pageSize => rfl
  | _ => exact absurd rfl h

-- ---------------------------------------------------------------------------
-- Runs
-- ---------------------------------------------------------------------------

section
variable {q r : Query} (hoptions : q.options = r.options)
include hoptions

theorem content_run {part : Part} (h : q.content part = r.content part) (steps : List (Step F)) :
    (q.run S steps).1.content part = (r.run S (Step.on part steps)).1.content part := by
  induction steps generalizing q r with
  | nil => exact h
  | cons step steps ih =>
    by_cases hpart : step.part = part
    · subst hpart
      rw [Step.on_cons_of_part rfl]
      exact ih (by rw [options_apply, options_apply, hoptions]) (content_apply_congr hoptions h)
    · rw [Step.on_cons_of_ne hpart]
      exact ih (by rw [options_apply, hoptions]) ((content_apply_of_ne q hpart).trans h)

theorem events_run (h : q.content .filters = r.content .filters) (steps : List (Step F)) :
    (q.run S steps).2 = (r.run S (Step.on .filters steps)).2 := by
  induction steps generalizing q r with
  | nil => rfl
  | cons step steps ih =>
    by_cases hpart : step.part = .filters
    · have hstep : (q.apply S step).content .filters = (r.apply S step).content .filters :=
        hpart ▸ content_apply_congr hoptions (hpart ▸ h)
      have hlater := ih (by rw [options_apply, options_apply, hoptions]) hstep
      rw [Step.on_cons_of_part hpart, run_cons, run_cons, events_congr hoptions (content_filters.mp h),
        hlater]
    · have hstep : (q.apply S step).content .filters = q.content .filters := content_apply_of_ne q hpart
      have hlater := ih (by rw [options_apply, hoptions]) (hstep.trans h)
      rw [Step.on_cons_of_ne hpart, run_cons, events_of_part_ne q hpart, hlater, List.nil_append]

end

theorem run_getLast? {view : Query → Option UInt32} {set? : Step F → Option UInt32}
    (h : ∀ (q : Query) (step : Step F), view (q.apply S step) = (set? step).or (view q))
    (q : Query) (steps : List (Step F)) :
    view (q.run S steps).1 = ((steps.filterMap set?).getLast?).or (view q) := by
  induction steps generalizing q with
  | nil => rfl
  | cons step steps ih =>
    rw [run_cons, ih, h]
    cases hset : set? step with
    | none => rw [List.filterMap_cons_none hset, Option.none_or]
    | some n =>
      rw [List.filterMap_cons_some hset, List.getLast?_cons, Option.some_or]
      cases (steps.filterMap set?).getLast? <;> rfl

theorem page_apply (q : Query) (step : Step F) :
    (q.apply S step).page = step.page?.or q.page := by
  cases step with
  | page n => rfl
  | _ => exact content_page.mp (content_apply_of_ne q fun h => nomatch h)

theorem pageSize_apply (q : Query) (step : Step F) :
    (q.apply S step).pageSize = step.pageSize?.or q.pageSize := by
  cases step with
  | pageSize n => rfl
  | _ => exact content_pageSize.mp (content_apply_of_ne q fun h => nomatch h)

/-- Runs with the same steps on each part, in whatever order between the
parts, end in the same query and report the same. -/
theorem run_eq_of_on_eq (q : Query) {steps others : List (Step F)}
    (h : ∀ part, Step.on part others = Step.on part steps) : q.run S others = q.run S steps := by
  refine Prod.ext (eq_of_content ?_ fun part => ?_) ?_
  · rw [options_run, options_run]
  · rw [content_run rfl rfl others, content_run rfl rfl steps, h part]
  · rw [events_run rfl rfl others, events_run rfl rfl steps, h .filters]

/-- Each part of the query at the end of a run, and the report of what was
removed, comes from the steps on that part. So all runs that take the same
steps on each part, however these alternate, end in the same query, and the
query strings and the records are the same too. -/
theorem parts_evolve_apart (S : Schema F) (q : Query) (steps : List (Step F)) :
    let last := (q.run S steps).1
    last.filters = (q.run S (Step.on .filters steps)).1.filters ∧
      (q.run S steps).2 = (q.run S (Step.on .filters steps)).2 ∧
      last.sorts = (q.run S (Step.on .sorts steps)).1.sorts ∧
      last.page = ((steps.filterMap Step.page?).getLast?).or q.page ∧
      last.pageSize = ((steps.filterMap Step.pageSize?).getLast?).or q.pageSize ∧
      last.options = q.options ∧
      ∀ others : List (Step F), (∀ part, Step.on part others = Step.on part steps) →
        q.run S others = q.run S steps ∧
          (q.run S others).1.toQueryString = last.toQueryString ∧
          (q.run S others).1.toRecord = last.toRecord := by
  intro last
  refine ⟨?_, events_run rfl rfl steps, ?_, run_getLast? page_apply q steps,
    run_getLast? pageSize_apply q steps, options_run S q steps, ?_⟩
  · exact content_filters.mp (content_run rfl rfl steps)
  · exact content_sorts.mp (content_run rfl rfl steps)
  · intro others hothers
    have hrun : q.run S others = q.run S steps := run_eq_of_on_eq q hothers
    exact ⟨hrun, by rw [hrun], by rw [hrun]⟩

theorem parts_evolve_apart_in_two_orders :
    let S := Schema.ofFields [⟨"title", "title"⟩, ⟨"likes", "likes"⟩]
    let q : Query := { filters := ["Title@=a", "Likes>3"], page := some 7 }
    let steps : List (Step (Fin 2)) :=
      [.sortBy 0, .replaceFilter ⟨1, .lessThan, .uint 9⟩, .page 2, .sortByName "" true, .pageSize 5,
        .removeFiltersByName "Title", .page 3]
    let others : List (Step (Fin 2)) :=
      [.pageSize 5, .page 2, .page 3, .replaceFilter ⟨1, .lessThan, .uint 9⟩, .sortBy 0,
        .removeFiltersByName "Title", .sortByName "" true]
    (∀ part, Step.on part others = Step.on part steps) ∧
      q.run S others = q.run S steps ∧
      (q.run S others).1.toQueryString = (q.run S steps).1.toQueryString ∧
      (q.run S others).1.toRecord = (q.run S steps).1.toRecord ∧
      (q.run S steps).2 = [.removed "Likes" 1, .removed "Title" 1] := by
  intro S q steps others
  have hothers : ∀ part, Step.on part others = Step.on part steps := by
    intro part
    cases part <;> rfl
  obtain ⟨-, -, -, -, -, -, hsame⟩ := parts_evolve_apart S q steps
  obtain ⟨hrun, hstring, hrecord⟩ := hsame others hothers
  exact ⟨hothers, hrun, hstring, hrecord, by decide +kernel⟩

end Query

end ListQuery
