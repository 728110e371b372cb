import ListQuery.Proofs.Clause
import ListQuery.Proofs.Query.NormalForm

/-!
# Lists that are there

Whatever names, symbols and values its steps are given, no run stores an empty
text. So a list is written as a text just if it has tokens, and the three wire
forms of a query agree on which of its lists are there.
-/

namespace ListQuery

-- ---------------------------------------------------------------------------
-- Records and their parameters
-- ---------------------------------------------------------------------------

theorem Parameter.exists_key_present_iff {α : Type} {key wanted : String} {value : α → ParameterValue}
    {part : Option α} :
    (∃ p ∈ present key value part, p.key = wanted) ↔ key = wanted ∧ part.isSome = true := by
  cases part <;> simp [present]

theorem Record.exists_key_parameters_iff (r : Record) (key : String) :
    (∃ p ∈ r.parameters, p.key = key) ↔
      (Parameter.filtersKey = key ∧ r.filters.isSome = true) ∨
        (Parameter.sortsKey = key ∧ r.sorts.isSome = true) ∨
          (Parameter.pageKey = key ∧ r.page.isSome = true) ∨
            (Parameter.pageSizeKey = key ∧ r.pageSize.isSome = true) := by
  simp only [parameters, List.mem_append, or_and_right, exists_or, Parameter.exists_key_present_iff]

inductive ListPart where
  | filters
  | sorts

namespace ListPart

def key : ListPart → String
  | filters => Parameter.filtersKey
  | sorts => Parameter.sortsKey

def ofRecord : ListPart → Record → Option String
  | filters => Record.filters
  | sorts => Record.sorts

def ofQuery : ListPart → Query → List String
  | filters => Query.filters
  | sorts => Query.sorts

theorem exists_key_iff (part : ListPart) (r : Record) :
    (∃ p ∈ r.parameters, p.key = part.key) ↔ (part.ofRecord r).isSome = true := by
  rw [Record.exists_key_parameters_iff]
  cases part <;>
    simp [key, ofRecord, Parameter.filtersKey, Parameter.sortsKey, Parameter.pageKey, Parameter.pageSizeKey]

end ListPart

theorem Record.separator_not_mem_key {r : Record} {p : Parameter} (h : p ∈ r.parameters) :
    '&' ∉ p.key.toList ∧ '=' ∉ p.key.toList := by
  have hkey := isUnreservedChar_of_mem_key h
  exact ⟨fun hc => absurd (hkey _ hc) (by decide), fun hc => absurd (hkey _ hc) (by decide)⟩

namespace Query

variable {F : Type} {q : Query}

theorem isSome_presentText_join_iff {texts : List String} (h : "" ∉ texts) :
    (presentText (TokenList.join texts)).isSome = true ↔ texts ≠ [] := by
  rw [ne_eq, ← TokenList.join_eq_empty_iff h]
  unfold presentText
  split <;> simp_all

-- ---------------------------------------------------------------------------
-- Three wire forms
-- ---------------------------------------------------------------------------

/-- The parameters, the query string and the record of a query have a
component of the list just if the list has tokens. `part` is the component of
the record. -/
structure Shows (q : Query) (key : String) (part : Record → Option String) (list : List String) :
    Prop where
  parameters : (∃ p ∈ q.toParameters, p.key = key) ↔ list ≠ []
  queryString : Parameter.HasComponent q.toQueryString key ↔ list ≠ []
  record : (part q.toRecord).isSome = true ↔ list ≠ []

theorem hasComponent_toQueryString_iff (q : Query) (key : String) :
    Parameter.HasComponent q.toQueryString key ↔ ∃ p ∈ q.toParameters, p.key = key := by
  refine Parameter.hasComponent_queryString_iff ?_ key
  rw [toParameters_eq]
  exact fun p hp => Record.separator_not_mem_key hp

theorem shows_of_parameters {key : String} {part : Record → Option String} {list : List String}
    (hparameters : (∃ p ∈ q.toParameters, p.key = key) ↔ (part q.toRecord).isSome = true)
    (hrecord : (part q.toRecord).isSome = true ↔ list ≠ []) : q.Shows key part list where
  parameters := hparameters.trans hrecord
  queryString := (hasComponent_toQueryString_iff q key).trans (hparameters.trans hrecord)
  record := hrecord

theorem shows_part (part : ListPart) (h : "" ∉ part.ofQuery q) :
    q.Shows part.key part.ofRecord (part.ofQuery q) := by
  have hrecord : (part.ofRecord q.toRecord).isSome = true ↔ part.ofQuery q ≠ [] := by
    cases part <;> exact isSome_presentText_join_iff h
  have hshown : part.ofRecord q.shownParts = part.ofRecord q.toRecord := by
    cases part <;> rfl
  refine shows_of_parameters ?_ hrecord
  rw [toParameters_eq, part.exists_key_iff, hshown]

-- ---------------------------------------------------------------------------
-- Runs
-- ---------------------------------------------------------------------------

theorem Filled.empty_not_mem (h : q.Filled) : "" ∉ q.filters ∧ "" ∉ q.sorts := by
  obtain ⟨hfilters, hsorts⟩ := filled_iff.mp h
  exact ⟨fun hmem => hfilters _ hmem rfl, fun hmem => hsorts _ hmem rfl⟩

theorem empty_not_mem_fieldNames (h : "" ∉ q.filters) : "" ∉ q.clauses.map (·.fieldName) := by
  intro hmem
  obtain ⟨clause, hclause, hname⟩ := List.mem_map.mp hmem
  obtain ⟨text, htext, rfl⟩ := List.mem_map.mp hclause
  exact h (Clause.fieldOf_eq_empty_iff.mp hname ▸ htext)

/-- No query that a run reaches, from any start, holds an empty text or a
clause without a field. Its lists have empty texts just if they are empty, and
just then they are left out of all wire forms. -/
theorem reached_lists_are_filled_and_shown (S : Schema F) (start : Start) (steps : List (Step F)) :
    let q := (start.query.run S steps).1
    ("" ∉ q.filters ∧ "" ∉ q.sorts ∧ "" ∉ q.clauses.map (·.fieldName)) ∧
      ((q.filterText = "" ↔ q.clauses = []) ∧ (q.sortText = "" ↔ q.sortKeys = [])) ∧
      q.Shows Parameter.filtersKey Record.filters q.filters ∧
      q.Shows Parameter.sortsKey Record.sorts q.sorts := by
  intro q
  have hfilled : q.Filled := filled_run start.normal_query.filled steps
  obtain ⟨hfilters, hsorts⟩ := hfilled.empty_not_mem
  refine ⟨⟨hfilters, hsorts, empty_not_mem_fieldNames hfilters⟩, ⟨?_, ?_⟩, shows_part .filters hfilters,
    shows_part .sorts hsorts⟩
  · rw [filterText, TokenList.join_eq_empty_iff hfilters, clauses, List.map_eq_nil_iff]
  · rw [sortText, TokenList.join_eq_empty_iff hsorts, sortKeys, List.map_eq_nil_iff]

end Query

end ListQuery
