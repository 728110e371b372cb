import ListQuery.Proofs.Query.RoundTrip

/-!
# Records and query strings

A query that travels as a record holds the same clauses and sort tokens as
one that travels as a query string. Page and page size differ just where the
record fills in what is not set. Nothing of a record is lost in its JSON form.
-/

namespace ListQuery

-- ---------------------------------------------------------------------------
-- Records in JSON
-- ---------------------------------------------------------------------------

namespace Record

theorem lookup_member {α : Type} (key wanted : String) (write : α → Json) (part : Option α) :
    (member key write part).lookup wanted = if wanted == key then part.map write else none := by
  cases part with
  | none => simp [member]
  | some a =>
    change [(key, write a)].lookup wanted = _
    rw [List.lookup_cons, List.lookup_nil]
    cases wanted == key <;> rfl

theorem nullable_string (part : Option String) :
    Json.nullable Json.toString? (part.map .string) = some part := by
  cases part <;> rfl

theorem nullable_natural (part : Option UInt32) :
    Json.nullable Json.toUInt32? (part.map .natural) = some part := by
  cases part with
  | none => rfl
  | some n =>
    change (Json.natural n).toUInt32?.map some = some (some n)
    rw [Json.toUInt32?_natural]
    rfl

theorem ofJson_toJson (r : Record) : ofJson r.toJson = some r := by
  simp only [ofJson, toJson, List.lookup_append, lookup_member]
  simp [ofParts, nullable_string, nullable_natural]

end Record

-- ---------------------------------------------------------------------------
-- Two ways to travel
-- ---------------------------------------------------------------------------

theorem PagingPolicy.resolve_eq_iff (policy : PagingPolicy) (page pageSize : Option UInt32) :
    policy.resolve page pageSize = (page, pageSize) ↔
      policy = .leaveOut ∨ (page.isSome = true ∧ pageSize.isSome = true) := by
  cases policy with
  | leaveOut => simp [resolve]
  | fallback defaultPage defaultSize => cases page <;> cases pageSize <;> simp [resolve]

namespace Query

theorem filters_ofRecord_toRecord (q : Query) (o : Options) :
    (ofRecord q.toRecord o).filters = q.filters.flatMap TokenList.split :=
  tokensOf_presentText_join q.filters

theorem sorts_ofRecord_toRecord (q : Query) (o : Options) :
    (ofRecord q.toRecord o).sorts = q.sorts.flatMap TokenList.split :=
  tokensOf_presentText_join q.sorts

theorem paging_ofRecord_toRecord (q : Query) (o : Options) :
    ((ofRecord q.toRecord o).page, (ofRecord q.toRecord o).pageSize) =
      q.options.paging.resolve q.page q.pageSize := rfl

theorem same_ofRecord_toRecord_iff (q : Query) (o : Options) :
    (ofRecord q.toRecord o).same (parse q.toQueryString o) = true ↔
      q.options.paging = .leaveOut ∨ (q.page.isSome = true ∧ q.pageSize.isSome = true) := by
  rw [same_iff, parse_toQueryString, filters_ofRecord_toRecord, sorts_ofRecord_toRecord,
    ← PagingPolicy.resolve_eq_iff, ← paging_ofRecord_toRecord q o]
  simp

/-- The two ways agree: for any record the query string of its parts is read
as the record is, and any query arrives by its record, in JSON and back, with
the clauses and sort tokens that it arrives with by its query string. -/
theorem record_path_agrees (o : Options) :
    (∀ r : Record, ofRecord r o = parse (Parameter.queryString r.parameters) o) ∧
    ∀ q : Query, ∃ r, Record.ofJson q.toRecord.toJson = some r ∧
      (ofRecord r o).filters = (parse q.toQueryString o).filters ∧
      (ofRecord r o).sorts = (parse q.toQueryString o).sorts ∧
      ((ofRecord r o).same (parse q.toQueryString o) = true ↔
        q.options.paging = .leaveOut ∨ (q.page.isSome = true ∧ q.pageSize.isSome = true)) := by
  constructor
  · intro r
    exact (parse_parameters r o).symm
  · intro q
    refine ⟨q.toRecord, Record.ofJson_toJson _, ?_, ?_, same_ofRecord_toRecord_iff q o⟩
    · rw [filters_ofRecord_toRecord, parse_toQueryString]
    · rw [sorts_ofRecord_toRecord, parse_toQueryString]

end Query

end ListQuery
