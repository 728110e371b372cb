import ListQuery.Proofs.Query.Step

/-!
# Fields by name

What is done and asked on declared fields can be done and asked by name, with
the names as the options spell them and the symbols of the operators. No
declared field is needed for that, and nobody can tell the difference at any
point of the way.
-/

namespace ListQuery

variable {F G : Type}

-- ---------------------------------------------------------------------------
-- Actions
-- ---------------------------------------------------------------------------

inductive Question (F : Type) where
  | hasFilter (name : String)
  | hasSort (name : String)
  | hasFilterFor (field : F)
  | hasSortFor (field : F)

inductive Action (F : Type) where
  | change (step : Step F)
  | ask (question : Question F)

/-- What comes of an action: the query as it is then, the events on the way,
and the answer to a question. -/
structure Outcome where
  query : Query
  events : List Event
  answer : Option Bool

namespace Query

def answer (S : Schema F) (q : Query) : Question F → Bool
  | .hasFilter name => q.hasFilter name
  | .hasSort name => q.hasSort name
  | .hasFilterFor field => q.hasFilterFor S field
  | .hasSortFor field => q.hasSortFor S field

def act (S : Schema F) (q : Query) : Action F → Outcome
  | .change step => ⟨q.apply S step, q.events S step, none⟩
  | .ask question => ⟨q, [], some (q.answer S question)⟩

def trace (S : Schema F) (q : Query) : List (Action F) → List Outcome
  | [] => []
  | action :: actions => q.act S action :: (q.act S action).query.trace S actions

theorem options_act (S : Schema F) (q : Query) (action : Action F) :
    (q.act S action).query.options = q.options := by
  cases action with
  | change step => exact options_apply S q step
  | ask question => rfl

end Query

-- ---------------------------------------------------------------------------
-- The same by name
-- ---------------------------------------------------------------------------

section
variable (S : Schema F) (fieldCase : FieldCase)

def Step.byName : Step F → Step G
  | .filter clause =>
    .filterByName (S.wireName fieldCase clause.field) clause.operator.symbol clause.value
  | .replaceFilter clause =>
    .replaceFilterByName (S.wireName fieldCase clause.field) clause.operator.symbol clause.value
  | .filterByName name symbol value => .filterByName name symbol value
  | .replaceFilterByName name symbol value => .replaceFilterByName name symbol value
  | .sortBy field => .sortByName (S.wireName fieldCase field) false
  | .sortByDescending field => .sortByName (S.wireName fieldCase field) true
  | .sortByName name descending => .sortByName name descending
  | .removeFilters field => .removeFiltersByName (S.wireName fieldCase field)
  | .removeFiltersByName name => .removeFiltersByName name
  | .clearFilters => .clearFilters
  | .clearSorts => .clearSorts
  | .page n => .page n
  | .pageSize n => .pageSize n

def Question.byName : Question F → Question G
  | .hasFilter name => .hasFilter name
  | .hasSort name => .hasSort name
  | .hasFilterFor field => .hasFilter (S.wireName fieldCase field)
  | .hasSortFor field => .hasSort (S.wireName fieldCase field)

def Action.byName : Action F → Action G
  | .change step => .change (step.byName S fieldCase)
  | .ask question => .ask (question.byName S fieldCase)

end

namespace Step

variable {α : Type} [ToValue α]

def typedComparisons (field : F) (value : α) (text : String) : List (Step F) :=
  [filterEquals field value, filterNotEquals field value, filterContains field text,
    filterStartsWith field text, filterGreaterThan field value, filterLessThan field value,
    filterGreaterThanOrEqual field value, filterLessThanOrEqual field value,
    replaceEquals field value, replaceNotEquals field value, replaceContains field text,
    replaceStartsWith field text, replaceGreaterThan field value, replaceLessThan field value,
    replaceGreaterThanOrEqual field value, replaceLessThanOrEqual field value]

def namedComparisons (name : String) (value : α) (text : String) : List (Step F) :=
  [filterByName name "==" (toValue value), filterByName name "!=" (toValue value),
    filterByName name "@=" (.text text), filterByName name "_=" (.text text),
    filterByName name ">" (toValue value), filterByName name "<" (toValue value),
    filterByName name ">=" (toValue value), filterByName name "<=" (toValue value),
    replaceFilterByName name "==" (toValue value), replaceFilterByName name "!=" (toValue value),
    replaceFilterByName name "@=" (.text text), replaceFilterByName name "_=" (.text text),
    replaceFilterByName name ">" (toValue value), replaceFilterByName name "<" (toValue value),
    replaceFilterByName name ">=" (toValue value), replaceFilterByName name "<=" (toValue value)]

theorem typedComparisons_byName (S : Schema F) (fieldCase : FieldCase) (field : F) (value : α) (text : String) :
    (typedComparisons field value text).map (byName S fieldCase) =
      (namedComparisons (S.wireName fieldCase field) value text : List (Step G)) := rfl

end Step

namespace Query

variable (S : Schema F) (T : Schema G)

theorem apply_byName (q : Query) (step : Step F) :
    q.apply T (step.byName S q.options.fieldCase) = q.apply S step := by
  cases step <;> rfl

theorem events_byName (q : Query) (step : Step F) :
    q.events T (step.byName S q.options.fieldCase) = q.events S step := by
  cases step <;> rfl

theorem answer_byName (q : Query) (question : Question F) :
    q.answer T (question.byName S q.options.fieldCase) = q.answer S question := by
  cases question <;> rfl

theorem act_byName (q : Query) (action : Action F) :
    q.act T (action.byName S q.options.fieldCase) = q.act S action := by
  cases action with
  | change step => rw [Action.byName, act, apply_byName, events_byName, act]
  | ask question => rw [Action.byName, act, answer_byName, act]

/-- The names are spelled once, at the start: no action changes the options. -/
theorem trace_byName (q : Query) (actions : List (Action F)) :
    q.trace T (actions.map (Action.byName S q.options.fieldCase)) = q.trace S actions := by
  induction actions generalizing q with
  | nil => rfl
  | cons action actions ih =>
    have hlater := ih (q.act S action).query
    rw [options_act] at hlater
    rw [List.map_cons, trace, act_byName, hlater, trace]

/-- Whatever is done and asked on declared fields, by name the same comes of it
at each point: the same query, the same events and the same answer. Each of the
eight comparisons, added or put in place of others, is the step by name with
its symbol. -/
theorem typed_actions_are_named_actions (q : Query) (actions : List (Action F)) :
    q.trace T (actions.map (Action.byName S q.options.fieldCase)) = q.trace S actions ∧
      ∀ (α : Type) [ToValue α] (field : F) (value : α) (text : String),
        (Step.typedComparisons field value text).map (Step.byName S q.options.fieldCase) =
          (Step.namedComparisons (q.wireName S field) value text : List (Step G)) :=
  ⟨trace_byName S T q actions, fun _ _ field value text =>
    Step.typedComparisons_byName S q.options.fieldCase field value text⟩

/-- A clause put in place by name is found on the declared field, and the other
way round. -/
example :
    let S := Schema.ofFields [⟨"createdAt", "created_at"⟩]
    let actions : List (Action (Fin 1)) :=
      [.change (.replaceFilterByName "CreatedAt" ">" (.text "1")), .ask (.hasFilterFor 0),
        .change (.replaceFilter ⟨0, .lessThan, .text "2"⟩), .ask (.hasFilter "CreatedAt")]
    ((withOptions {}).trace S actions).map (fun outcome => (outcome.query.filters, outcome.answer)) =
      [(["CreatedAt>1"], none), (["CreatedAt>1"], some true), (["CreatedAt<2"], none),
        (["CreatedAt<2"], some true)] := by
  decide +kernel

end Query

end ListQuery
