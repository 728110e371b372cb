import ListQuery.Proofs.Decomposition
import ListQuery.Proofs.Query.NormalForm

/-!
# Queries rebuilt from what is seen of them

The clauses and sort tokens of a query as they are seen, added by name to a
query without anything, are the texts that they were read from. With page and
page size they make up the query again: no run ever stores an empty text, and
others are not lost when they are added.
-/

namespace ListQuery

variable {F : Type}

theorem Value.format_text (s : String) : (Value.text s).format = s :=
  String.ofList_toList

def Clause.toStep (clause : Clause) : Step F :=
  .filterByName clause.fieldName clause.symbol (.text clause.rawValue)

def SortKey.toStep (key : SortKey) : Step F :=
  .sortByName key.fieldName key.descending

namespace Query

/-- The steps that ask for all that is seen of a query. -/
def restated (q : Query) : List (Step F) :=
  q.clauses.map Clause.toStep ++
    (q.sortKeys.map SortKey.toStep ++ ((q.page.map .page).toList ++ (q.pageSize.map .pageSize).toList))

theorem apply_toStep_clause (S : Schema F) (q : Query) (text : String) :
    q.apply S (Clause.parse text).toStep = q.pushFilter text := by
  rw [Clause.toStep, apply, Value.format_text, Clause.compose_parse]

theorem apply_toStep_sortKey (S : Schema F) (q : Query) (token : String) :
    q.apply S (SortKey.parse token).toStep = q.pushSort token := by
  rw [SortKey.toStep, apply, SortKey.compose_parse]

-- ---------------------------------------------------------------------------
-- Runs
-- ---------------------------------------------------------------------------

theorem run_clauses (S : Schema F) (q : Query) {texts : List String} (h : ∀ text ∈ texts, text ≠ "") :
    (q.run S ((texts.map Clause.parse).map Clause.toStep)).1 = { q with filters := q.filters ++ texts } := by
  induction texts generalizing q with
  | nil => simp [run]
  | cons text texts ih =>
    obtain ⟨htext, hrest⟩ := List.forall_mem_cons.mp h
    rw [List.map_cons, List.map_cons, run, apply_toStep_clause, pushFilter_of_ne_empty q htext]
    simpa using ih { q with filters := q.filters ++ [text] } hrest

theorem run_sortKeys (S : Schema F) (q : Query) {tokens : List String} (h : ∀ token ∈ tokens, token ≠ "") :
    (q.run S ((tokens.map SortKey.parse).map SortKey.toStep)).1 = { q with sorts := q.sorts ++ tokens } := by
  induction tokens generalizing q with
  | nil => simp [run]
  | cons token tokens ih =>
    obtain ⟨htoken, hrest⟩ := List.forall_mem_cons.mp h
    rw [List.map_cons, List.map_cons, run, apply_toStep_sortKey, pushSort_of_ne_empty q htoken]
    simpa using ih { q with sorts := q.sorts ++ [token] } hrest

theorem run_paging (S : Schema F) (q : Query) (page pageSize : Option UInt32) :
    (q.run S ((page.map .page).toList ++ (pageSize.map .pageSize).toList)).1 =
      { q with page := page.or q.page, pageSize := pageSize.or q.pageSize } := by
  cases page <;> cases pageSize <;> rfl

theorem run_restated (S : Schema F) {q : Query} (h : q.Filled) (o : Options) :
    ((withOptions o).run S q.restated).1 = { q with options := o } := by
  obtain ⟨hfilters, hsorts⟩ := filled_iff.mp h
  rw [restated, run_append, run_append, clauses, run_clauses S _ hfilters, sortKeys,
    run_sortKeys S _ hsorts, run_paging]
  simp [withOptions]

/-- Nothing is lost when a clause is taken apart, and no operator is left in
its field. So a query that is reached by any run is rebuilt from what is seen
of it, under whatever options. -/
theorem seen_parts_rebuild_query (S : Schema F) (o : Options) :
    (∀ text : String,
      let clause := Clause.parse text
      clause.fieldName ++ clause.symbol ++ clause.rawValue = text ∧ clause.text = text ∧
        Clause.parse clause.fieldName = ⟨clause.fieldName, none, "", clause.fieldName⟩) ∧
    ∀ (start : Start) (steps : List (Step F)),
      let q := (start.query.run S steps).1
      ((withOptions o).run S q.restated).1 = { q with options := o } := by
  constructor
  · intro text clause
    exact ⟨Clause.compose_parse text, Clause.text_parse text, Clause.parse_fieldName text⟩
  · intro start steps q
    exact run_restated S (filled_run start.normal_query.filled steps) o

end Query

end ListQuery
