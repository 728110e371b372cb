import ListQuery.Proofs.Query.Interleaving
import Mathlib.Data.List.Basic

/-!
# The ledger of clauses

A step takes away the clauses on one name, or none, and adds one clause at
most. What it takes away it reports with the number, so a run that never clears
the filters ends with as many clauses as there were and were added, less those
that its events count.
-/

namespace ListQuery

variable {F : Type}

namespace Event

def count : Event → Nat
  | removed _ count => count
  | _ => 0

def total : List Event → Nat
  | [] => 0
  | event :: events => event.count + total events

theorem total_append (events later : List Event) : total (events ++ later) = total events + total later := by
  induction events with
  | nil => exact (Nat.zero_add _).symm
  | cons event events ih => rw [List.cons_append, total, total, ih, Nat.add_assoc]

end Event

namespace Step

/-- The name whose clauses a step takes away: that of a replacement or of a
removal. -/
def removes (S : Schema F) (fieldCase : FieldCase) : Step F → Option String
  | .replaceFilter clause => some (S.wireName fieldCase clause.field)
  | .replaceFilterByName name _ _ => some name
  | .removeFilters field => some (S.wireName fieldCase field)
  | .removeFiltersByName name => some name
  | _ => none

/-- The clauses that a step adds: the one that it pushes, unless it is empty. -/
def added (S : Schema F) (fieldCase : FieldCase) (step : Step F) : List String :=
  if step.part = .filters then (step.pushed S fieldCase).toList.filter (· ≠ "") else []

end Step

namespace Query

-- ---------------------------------------------------------------------------
-- One removal
-- ---------------------------------------------------------------------------

theorem length_clausesOn (q : Query) (name : String) :
    (q.clausesOn name).length = q.clauses.countP (·.fieldName == name) := by
  rw [clausesOn, ← List.countP_eq_length_filter, clauses, List.countP_map]
  rfl

theorem total_removalEvents (q : Query) (name : String) :
    Event.total (q.removalEvents name) = (q.clausesOn name).length := by
  rw [removalEvents_eq]
  split
  · next h => rw [h]; rfl
  · rfl

/-- What is reported of a removal, seen from the clauses that were there. -/
structure Removal (q : Query) (name : String) (events : List Event) : Prop where
  single : events.length ≤ 1
  found : events ≠ [] ↔ ∃ clause ∈ q.clauses, clause.fieldName = name
  counted : ∀ event ∈ events, event = .removed name (q.clauses.countP (·.fieldName == name))

theorem removal_removalEvents (q : Query) (name : String) : q.Removal name (q.removalEvents name) := by
  have hlength := length_clausesOn q name
  rw [removalEvents_eq]
  split
  · next h =>
    rw [h] at hlength
    have hnone := List.countP_eq_zero.mp hlength.symm
    refine ⟨Nat.zero_le 1, ⟨fun hne => absurd rfl hne, ?_⟩, fun _ hevent => nomatch hevent⟩
    rintro ⟨clause, hclause, hname⟩
    exact absurd (beq_iff_eq.mpr hname) (hnone clause hclause)
  · next h =>
    rw [hlength]
    refine ⟨Nat.le_refl 1, ⟨fun _ => ?_, fun _ => List.cons_ne_nil _ _⟩, fun event => List.mem_singleton.mp⟩
    have hpos := hlength ▸ List.length_pos_iff.mpr h
    obtain ⟨clause, hclause, hname⟩ := List.countP_pos_iff.mp hpos
    exact ⟨clause, hclause, beq_iff_eq.mp hname⟩

-- ---------------------------------------------------------------------------
-- One step
-- ---------------------------------------------------------------------------

section
variable (S : Schema F) (q : Query)

theorem filters_pushFilter_eq_filter (clause : String) :
    (q.pushFilter clause).filters = q.filters ++ [clause].filter (· ≠ "") := by
  rw [filters_pushFilter]
  by_cases h : clause = "" <;> simp [h]

theorem events_eq (step : Step F) :
    q.events S step = (step.removes S q.options.fieldCase).elim [] q.removalEvents := by
  cases step <;> rfl

/-- All that a step does to the clauses, unless it clears them: first it takes
away those on one name, then it adds its own. -/
theorem filters_apply {step : Step F} (h : step ≠ .clearFilters) :
    (q.apply S step).filters =
      ((step.removes S q.options.fieldCase).elim q q.removeByName).filters ++
        step.added S q.options.fieldCase := by
  cases step with
  | filter | replaceFilter | filterByName | replaceFilterByName => exact filters_pushFilter_eq_filter _ _
  | sortBy | sortByDescending | sortByName => exact (filters_pushSort q _).trans (List.append_nil _).symm
  | clearFilters => exact absurd rfl h
  | _ => exact (List.append_nil _).symm

theorem length_apply {step : Step F} (h : step ≠ .clearFilters) :
    (q.apply S step).filters.length + Event.total (q.events S step) =
      q.filters.length + (step.added S q.options.fieldCase).length := by
  rw [filters_apply S q h, events_eq, List.length_append]
  cases step.removes S q.options.fieldCase with
  | none => rfl
  | some name =>
    have hname := length_removeByName q name
    rw [Option.elim_some, Option.elim_some, total_removalEvents]
    omega

end

-- ---------------------------------------------------------------------------
-- Runs
-- ---------------------------------------------------------------------------

theorem events_run_append (S : Schema F) (q : Query) (steps later : List (Step F)) :
    (q.run S (steps ++ later)).2 = (q.run S steps).2 ++ ((q.run S steps).1.run S later).2 := by
  induction steps generalizing q with
  | nil => rfl
  | cons step steps ih =>
    rw [List.cons_append, run_cons, run_cons, ih, List.append_assoc]

theorem length_run (S : Schema F) (q : Query) {steps : List (Step F)} (h : .clearFilters ∉ steps) :
    (q.run S steps).1.filters.length + Event.total (q.run S steps).2 =
      q.filters.length + (steps.flatMap (Step.added S q.options.fieldCase)).length := by
  induction steps generalizing q with
  | nil => rfl
  | cons step steps ih =>
    simp only [List.mem_cons, not_or] at h
    obtain ⟨hstep, hsteps⟩ := h
    have hone := length_apply S q (Ne.symm hstep)
    have hlater := ih (q.apply S step) hsteps
    rw [options_apply] at hlater
    simp only [run_cons, Event.total_append, List.flatMap_cons, List.length_append]
    omega

/-- The clauses at the end of a run are as many as there were at the start and
were added, less those that the events count. At each step that replaces or
removes there is one event if a clause on its name was there, with the name and
the number of such clauses, and none otherwise; no other step has an event. -/
theorem removals_account_for_every_clause (S : Schema F) (q : Query) {steps : List (Step F)}
    (h : .clearFilters ∉ steps) :
    (q.run S steps).1.filters.length + Event.total (q.run S steps).2 =
        q.filters.length + (steps.flatMap (Step.added S q.options.fieldCase)).length ∧
      ∀ before step after, steps = before ++ step :: after →
        let r := (q.run S before).1
        let events := r.events S step
        (q.run S steps).2 = (q.run S before).2 ++ (events ++ ((r.apply S step).run S after).2) ∧
          match step.removes S q.options.fieldCase with
          | some name => r.Removal name events
          | none => events = [] := by
  refine ⟨length_run S q h, ?_⟩
  rintro before step after rfl r events
  refine ⟨events_run_append S q before (step :: after), ?_⟩
  have hoptions : r.options = q.options := options_run S q before
  have hevents : events = (step.removes S q.options.fieldCase).elim [] r.removalEvents :=
    hoptions ▸ events_eq S r step
  rw [hevents]
  cases step.removes S q.options.fieldCase with
  | none => rfl
  | some name => exact removal_removalEvents r name

/-- A clause is counted where it is found: `a_==v`, added by the name `a_`, goes
with those on `a`. The empty clause is none at all. -/
theorem removals_account_for_clauses_on_other_names :
    let S := Schema.ofFields [⟨"title", "title"⟩, ⟨"likes", "likes"⟩]
    let q : Query := { filters := ["Title@=x", "a>1", "Title==y", "free"] }
    let before : List (Step (Fin 2)) :=
      [.filterByName "a_" "==" (.text "v"), .replaceFilter ⟨0, .contains, .text "z"⟩, .sortBy 1,
        .filterByName "" "" .null]
    let after : List (Step (Fin 2)) := [.page 2, .removeFilters 1, .replaceFilterByName "free" "" .null]
    let step : Step (Fin 2) := .replaceFilterByName "a" "" (.text "")
    let steps := before ++ step :: after
    .clearFilters ∉ steps ∧ (q.run S steps).1.filters = ["Title@=z", "a", "free"] ∧
      (q.run S steps).2 = [.removed "Title" 2, .removed "a" 2, .removed "free" 1] ∧
      (q.run S steps).1.filters.length + Event.total (q.run S steps).2 =
        q.filters.length + (steps.flatMap (Step.added S q.options.fieldCase)).length ∧
      (q.run S before).1.Removal "a" [.removed "a" 2] := by
  intro S q before after step steps
  have hclear : .clearFilters ∉ steps := by
    simp [steps, before, step, after]
  obtain ⟨hlength, hsteps⟩ := removals_account_for_every_clause S q hclear
  obtain ⟨-, hremoval⟩ := hsteps before step after rfl
  have hevents : (q.run S before).1.events S step = [.removed "a" 2] := by decide +kernel
  exact ⟨hclear, by decide +kernel, by decide +kernel, hlength, hevents ▸ hremoval⟩

end Query

end ListQuery
