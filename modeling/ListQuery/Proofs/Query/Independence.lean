import ListQuery.Proofs.FieldClause
import ListQuery.Proofs.Query.Step

/-!
# Fields that do not interfere

Steps on declared fields find clauses by taking their texts apart. If every
declared name is an identifier of its own that runs into no operator, a clause
on one field is never taken for a clause on another, whatever its value: the
clauses on a field after a run are those of the steps on that field alone, and
the clauses on no declared field are those of the start.
-/

namespace ListQuery

open Text (isAsciiIdentifier)

variable {F : Type}

/-- Declared names that are spelled as different identifiers, none of them
with `_` at its end. -/
structure Schema.Separate (S : Schema F) (fieldCase : FieldCase) : Prop where
  identifier : ∀ f ∈ S.fields, isAsciiIdentifier (S.wireName fieldCase f).toList = true
  last : ∀ f ∈ S.fields, (S.wireName fieldCase f).toList.getLast? ≠ some '_'
  distinct : ∀ f ∈ S.fields, ∀ g ∈ S.fields, S.wireName fieldCase f = S.wireName fieldCase g → f = g

namespace Step

/-- The declared field whose clauses a step adds to, replaces or removes. -/
def target : Step F → Option F
  | .filter clause | .replaceFilter clause => some clause.field
  | .removeFilters field => some field
  | _ => none

def onOwn (S : Schema F) (fieldCase : FieldCase) : Step F → List String → List String
  | .filter clause, clauses => clauses ++ [clause.text S fieldCase]
  | .replaceFilter clause, _ => [clause.text S fieldCase]
  | .removeFilters _, _ => []
  | _, clauses => clauses

theorem target_eq_some {step : Step F} {f : F} (h : step.target = some f) :
    (∃ clause : FieldClause F, clause.field = f ∧ (step = .filter clause ∨ step = .replaceFilter clause)) ∨
      step = .removeFilters f := by
  cases step with
  | filter clause => exact .inl ⟨clause, Option.some.inj h, .inl rfl⟩
  | replaceFilter clause => exact .inl ⟨clause, Option.some.inj h, .inr rfl⟩
  | removeFilters field => exact .inr (congrArg removeFilters (Option.some.inj h))
  | _ => cases h

end Step

namespace Query

-- ---------------------------------------------------------------------------
-- The clauses on one name
-- ---------------------------------------------------------------------------

theorem clausesOn_pushFilter (q : Query) {text : String} (h : text ≠ "") (name : String) :
    (q.pushFilter text).clausesOn name =
      q.clausesOn name ++ if Clause.fieldOf text = name then [text] else [] := by
  rw [pushFilter_of_ne_empty q h, clausesOn, List.filter_append]
  by_cases hname : Clause.fieldOf text = name <;> simp [clausesOn, hname]

theorem clausesOn_removeByName_self (q : Query) (name : String) :
    (q.removeByName name).clausesOn name = [] := by
  simp [clausesOn, filters_removeByName, List.filter_filter]

theorem clausesOn_removeByName_of_ne (q : Query) {name other : String} (h : name ≠ other) :
    (q.removeByName name).clausesOn other = q.clausesOn other := by
  rw [clausesOn, filters_removeByName, List.filter_filter]
  refine List.filter_congr fun clause _ => ?_
  by_cases hclause : Clause.fieldOf clause = other
  · simp [hclause, Ne.symm h]
  · simp [hclause]

section
variable {S : Schema F} {q : Query} (hS : S.Separate q.options.fieldCase)
include hS

theorem fieldOf_text {clause : FieldClause F} (hfield : clause.field ∈ S.fields) :
    Clause.fieldOf (clause.text S q.options.fieldCase) = q.wireName S clause.field := by
  refine (Clause.fieldOf_compose_iff (hS.identifier _ hfield) _ _).mpr ?_
  rintro ⟨-, -, hlast⟩
  exact hS.last _ hfield hlast

theorem clausesOn_apply_self {step : Step F} {f : F} (hf : f ∈ S.fields) (h : step.target = some f) :
    (q.apply S step).clausesOn (q.wireName S f) =
      step.onOwn S q.options.fieldCase (q.clausesOn (q.wireName S f)) := by
  rcases Step.target_eq_some h with ⟨clause, rfl, rfl | rfl⟩ | rfl
  · rw [apply, clausesOn_pushFilter q (clause.text_ne_empty _ _), fieldOf_text hS hf, if_pos rfl]
    rfl
  · rw [apply, clausesOn_pushFilter _ (clause.text_ne_empty _ _), fieldOf_text hS hf, if_pos rfl,
      clausesOn_removeByName_self]
    rfl
  · exact clausesOn_removeByName_self q _

theorem clausesOn_apply_of_ne {step : Step F} {f g : F} (hf : f ∈ S.fields) (hg : g ∈ S.fields)
    (h : step.target = some f) (hne : f ≠ g) :
    (q.apply S step).clausesOn (q.wireName S g) = q.clausesOn (q.wireName S g) := by
  have hnames : q.wireName S f ≠ q.wireName S g := fun heq => hne (hS.distinct f hf g hg heq)
  rcases Step.target_eq_some h with ⟨clause, rfl, rfl | rfl⟩ | rfl
  · rw [apply, clausesOn_pushFilter q (clause.text_ne_empty _ _), fieldOf_text hS hf, if_neg hnames,
      List.append_nil]
  · rw [apply, clausesOn_pushFilter _ (clause.text_ne_empty _ _), fieldOf_text hS hf, if_neg hnames,
      List.append_nil, clausesOn_removeByName_of_ne q hnames]
  · exact clausesOn_removeByName_of_ne q hnames

end

-- ---------------------------------------------------------------------------
-- The clauses on no declared field
-- ---------------------------------------------------------------------------

def undeclared (S : Schema F) (fieldCase : FieldCase) (q : Query) : List String :=
  q.filters.filter fun clause => S.fields.all fun f => Clause.fieldOf clause != S.wireName fieldCase f

theorem undeclared_pushFilter {S : Schema F} {fieldCase : FieldCase} (q : Query) {f : F} (hf : f ∈ S.fields)
    {text : String} (hne : text ≠ "") (h : Clause.fieldOf text = S.wireName fieldCase f) :
    (q.pushFilter text).undeclared S fieldCase = q.undeclared S fieldCase := by
  have htext : (S.fields.all fun g => Clause.fieldOf text != S.wireName fieldCase g) = false :=
    List.all_eq_false.mpr ⟨f, hf, by simp [h]⟩
  rw [pushFilter_of_ne_empty q hne, undeclared, List.filter_append, List.filter_singleton, htext]
  simp [undeclared]

theorem undeclared_removeByName {S : Schema F} {fieldCase : FieldCase} (q : Query) {f : F} (hf : f ∈ S.fields) :
    (q.removeByName (S.wireName fieldCase f)).undeclared S fieldCase = q.undeclared S fieldCase := by
  rw [undeclared, filters_removeByName, List.filter_filter]
  refine List.filter_congr fun clause _ => ?_
  cases hclause : S.fields.all fun g => Clause.fieldOf clause != S.wireName fieldCase g with
  | false => rfl
  | true => simpa using List.all_eq_true.mp hclause f hf

theorem undeclared_apply {S : Schema F} {q : Query} (hS : S.Separate q.options.fieldCase) {step : Step F}
    {f : F} (hf : f ∈ S.fields) (h : step.target = some f) :
    (q.apply S step).undeclared S q.options.fieldCase = q.undeclared S q.options.fieldCase := by
  rcases Step.target_eq_some h with ⟨clause, rfl, rfl | rfl⟩ | rfl
  · exact undeclared_pushFilter q hf (clause.text_ne_empty _ _) (fieldOf_text hS hf)
  · exact (undeclared_pushFilter _ hf (clause.text_ne_empty _ _) (fieldOf_text hS hf)).trans
      (undeclared_removeByName q hf)
  · exact undeclared_removeByName q hf

-- ---------------------------------------------------------------------------
-- Runs
-- ---------------------------------------------------------------------------

section
variable [DecidableEq F] {S : Schema F} {q : Query} {steps : List (Step F)}

/-- The clauses on a field after a run are what the steps on that field make of
those at the start. -/
theorem clausesOn_run (hS : S.Separate q.options.fieldCase)
    (hsteps : ∀ step ∈ steps, ∃ f ∈ S.fields, step.target = some f) {g : F} (hg : g ∈ S.fields) :
    (q.run S steps).1.clausesOn (q.wireName S g) =
      (steps.filter fun step => step.target = some g).foldl
        (fun clauses step => step.onOwn S q.options.fieldCase clauses) (q.clausesOn (q.wireName S g)) := by
  induction steps generalizing q with
  | nil => rfl
  | cons step steps ih =>
    obtain ⟨⟨f, hf, htarget⟩, hrest⟩ := List.forall_mem_cons.mp hsteps
    have hoptions := options_apply S q step
    have hlater := ih (q := q.apply S step) (hoptions ▸ hS) hrest
    rw [wireName_of_options hoptions, hoptions] at hlater
    rw [run, hlater]
    by_cases hfg : f = g
    · subst hfg
      rw [clausesOn_apply_self hS hf htarget]
      simp [htarget]
    · rw [clausesOn_apply_of_ne hS hf hg htarget hfg]
      simp [htarget, hfg]

/-- Under separate names, a run of steps on declared fields leaves of each
field what the steps on that field alone would leave, and of the clauses on no
declared field all, in their order. -/
theorem fields_do_not_interfere (hS : S.Separate q.options.fieldCase)
    (hsteps : ∀ step ∈ steps, ∃ f ∈ S.fields, step.target = some f) :
    (∀ g ∈ S.fields,
      (q.run S steps).1.clausesOn (q.wireName S g) =
        (q.run S (steps.filter fun step => step.target = some g)).1.clausesOn (q.wireName S g)) ∧
      (q.run S steps).1.undeclared S q.options.fieldCase = q.undeclared S q.options.fieldCase := by
  constructor
  · intro g hg
    have hown : ∀ step ∈ steps.filter fun step => step.target = some g, ∃ f ∈ S.fields, step.target = some f :=
      fun step hstep => hsteps step (List.mem_filter.mp hstep).1
    rw [clausesOn_run hS hsteps hg, clausesOn_run hS hown hg, List.filter_filter]
    simp only [Bool.and_self]
  · let kept (r : Query) : Prop := r.undeclared S q.options.fieldCase = q.undeclared S q.options.fieldCase
    refine run_induction (P := kept) rfl fun step hstep r hoptions hr => ?_
    obtain ⟨f, hf, htarget⟩ := hsteps step hstep
    have hstay := undeclared_apply (hoptions ▸ hS) hf htarget
    rw [hoptions] at hstay
    exact hstay.trans hr

end

theorem fields_do_not_interfere_by_values :
    let S := Schema.ofFields [⟨"title", "title"⟩, ⟨"likes_2", "likes"⟩]
    let q : Query := { filters := ["rank>3", "Title@=a", "Likes_2>=3", "free"] }
    let steps : List (Step (Fin 2)) :=
      [.filter ⟨0, .contains, .text "x,Likes_2>9"⟩, .replaceFilter ⟨1, .lessThan, .text "=Title==b"⟩,
        .removeFilters 0, .filter ⟨0, .equals, .text "Likes_2==1"⟩]
    S.Separate q.options.fieldCase ∧ (∀ step ∈ steps, ∃ f ∈ S.fields, step.target = some f) ∧
      (q.run S steps).1.clausesOn "Likes_2" = ["Likes_2<=Title==b"] ∧
      (q.run S steps).1.clausesOn "Likes_2" = (q.run S [steps[1]]).1.clausesOn "Likes_2" ∧
      (q.run S steps).1.undeclared S q.options.fieldCase = ["rank>3", "free"] := by
  intro S q steps
  have hS : S.Separate q.options.fieldCase := ⟨by decide +kernel, by decide +kernel, by decide +kernel⟩
  have hsteps : ∀ step ∈ steps, ∃ f ∈ S.fields, step.target = some f := by decide +kernel
  obtain ⟨hown, hundeclared⟩ := fields_do_not_interfere hS hsteps
  have hname : q.wireName S 1 = "Likes_2" := by decide +kernel
  have hone := hown 1 (by decide +kernel)
  rw [hname] at hone
  exact ⟨hS, hsteps, by decide +kernel, hone, hundeclared.trans (by decide +kernel)⟩

end Query

end ListQuery
