import ListQuery.Query.Basic

/-!
# Steps

The changes a query goes through, one at a time, with the events of each.
Steps on declared fields spell the names as the options say; steps by name
take any text for a name and for an operator. The eight comparisons of a field
can each be added, or put in place of the clauses on the field.
-/

namespace ListQuery

-- ---------------------------------------------------------------------------
-- Clauses on declared fields
-- ---------------------------------------------------------------------------

structure FieldClause (F : Type) where
  field : F
  operator : Operator
  value : Value

namespace FieldClause

variable {F α : Type} [ToValue α]

def equals (field : F) (value : α) : FieldClause F := ⟨field, .equals, toValue value⟩
def notEquals (field : F) (value : α) : FieldClause F := ⟨field, .notEquals, toValue value⟩
def greaterThan (field : F) (value : α) : FieldClause F := ⟨field, .greaterThan, toValue value⟩
def greaterThanOrEqual (field : F) (value : α) : FieldClause F :=
  ⟨field, .greaterThanOrEqual, toValue value⟩
def lessThan (field : F) (value : α) : FieldClause F := ⟨field, .lessThan, toValue value⟩
def lessThanOrEqual (field : F) (value : α) : FieldClause F :=
  ⟨field, .lessThanOrEqual, toValue value⟩
def contains (field : F) (part : String) : FieldClause F := ⟨field, .contains, .text part⟩
def startsWith (field : F) (start : String) : FieldClause F := ⟨field, .startsWith, .text start⟩

def text (S : Schema F) (fieldCase : FieldCase) (clause : FieldClause F) : String :=
  Clause.compose (S.wireName fieldCase clause.field) clause.operator.symbol clause.value.format

end FieldClause

-- ---------------------------------------------------------------------------
-- Steps
-- ---------------------------------------------------------------------------

inductive Step (F : Type) where
  | filter (clause : FieldClause F)
  | replaceFilter (clause : FieldClause F)
  | filterByName (name symbol : String) (value : Value)
  | replaceFilterByName (name symbol : String) (value : Value)
  | sortBy (field : F)
  | sortByDescending (field : F)
  | sortByName (name : String) (descending : Bool)
  | removeFilters (field : F)
  | removeFiltersByName (name : String)
  | clearFilters
  | clearSorts
  | page (n : UInt32)
  | pageSize (n : UInt32)

namespace Step

variable {F α : Type} [ToValue α]

def filterEquals (field : F) (value : α) : Step F := .filter (.equals field value)
def filterNotEquals (field : F) (value : α) : Step F := .filter (.notEquals field value)
def filterContains (field : F) (part : String) : Step F := .filter (.contains field part)
def filterStartsWith (field : F) (start : String) : Step F := .filter (.startsWith field start)
def filterGreaterThan (field : F) (value : α) : Step F := .filter (.greaterThan field value)
def filterLessThan (field : F) (value : α) : Step F := .filter (.lessThan field value)
def filterGreaterThanOrEqual (field : F) (value : α) : Step F := .filter (.greaterThanOrEqual field value)
def filterLessThanOrEqual (field : F) (value : α) : Step F := .filter (.lessThanOrEqual field value)

def replaceEquals (field : F) (value : α) : Step F := .replaceFilter (.equals field value)
def replaceNotEquals (field : F) (value : α) : Step F := .replaceFilter (.notEquals field value)
def replaceContains (field : F) (part : String) : Step F := .replaceFilter (.contains field part)
def replaceStartsWith (field : F) (start : String) : Step F := .replaceFilter (.startsWith field start)
def replaceGreaterThan (field : F) (value : α) : Step F := .replaceFilter (.greaterThan field value)
def replaceLessThan (field : F) (value : α) : Step F := .replaceFilter (.lessThan field value)
def replaceGreaterThanOrEqual (field : F) (value : α) : Step F :=
  .replaceFilter (.greaterThanOrEqual field value)
def replaceLessThanOrEqual (field : F) (value : α) : Step F := .replaceFilter (.lessThanOrEqual field value)

end Step

namespace Query

variable {F : Type}

/-- The query after a step. To replace is to remove the clauses on the field
name and then to add the new one. -/
def apply (S : Schema F) (q : Query) : Step F → Query
  | .filter clause => q.pushFilter (clause.text S q.options.fieldCase)
  | .replaceFilter clause =>
    (q.removeByName (q.wireName S clause.field)).pushFilter (clause.text S q.options.fieldCase)
  | .filterByName name symbol value => q.pushFilter (Clause.compose name symbol value.format)
  | .replaceFilterByName name symbol value =>
    (q.removeByName name).pushFilter (Clause.compose name symbol value.format)
  | .sortBy field => q.pushSort (SortKey.compose (q.wireName S field) false)
  | .sortByDescending field => q.pushSort (SortKey.compose (q.wireName S field) true)
  | .sortByName name descending => q.pushSort (SortKey.compose name descending)
  | .removeFilters field => q.removeByName (q.wireName S field)
  | .removeFiltersByName name => q.removeByName name
  | .clearFilters => { q with filters := [] }
  | .clearSorts => { q with sorts := [] }
  | .page n => { q with page := some n }
  | .pageSize n => { q with pageSize := some n }

def events (S : Schema F) (q : Query) : Step F → List Event
  | .replaceFilter clause => q.removalEvents (q.wireName S clause.field)
  | .replaceFilterByName name _ _ => q.removalEvents name
  | .removeFilters field => q.removalEvents (q.wireName S field)
  | .removeFiltersByName name => q.removalEvents name
  | _ => []

def run (S : Schema F) (q : Query) : List (Step F) → Query × List Event
  | [] => (q, [])
  | step :: steps =>
    let (last, later) := (q.apply S step).run S steps
    (last, q.events S step ++ later)

end Query

end ListQuery
