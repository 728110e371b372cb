import ListQuery.Proofs.Query.Segment
import ListQuery.Query.Reading

/-!
# Laws of reading

A record and the query string of its parts are read as the same query.
-/

namespace ListQuery

/-- The parts that a record has, under the four keys of a query string. A
text is a part even if it is empty. -/
def Record.parameters (r : Record) : List Parameter :=
  Parameter.present Parameter.filtersKey .text r.filters ++
    (Parameter.present Parameter.sortsKey .text r.sorts ++
      (Parameter.present Parameter.pageKey .number r.page ++
        Parameter.present Parameter.pageSizeKey .number r.pageSize))

theorem Record.isUnreservedChar_of_mem_key {r : Record} {p : Parameter} (h : p ∈ r.parameters) :
    ∀ c ∈ p.key.toList, Text.Percent.isUnreservedChar c = true := by
  simp only [parameters, List.mem_append] at h
  rcases h with h | h | h | h <;> rw [Parameter.key_of_mem_present h] <;>
    exact List.all_eq_true.mp (by decide)

namespace Query

theorem readSegments_append (state : Query × List Event) (xs ys : List (List Char)) :
    readSegments state (xs ++ ys) = readSegments (readSegments state xs) ys :=
  List.foldl_append

theorem readSegments_cons (state : Query × List Event) (segment : List Char) (segments : List (List Char)) :
    readSegments state (segment :: segments) = readSegments (readSegment state segment) segments := rfl

theorem readSegments_cons_ok {segment : List Char} {assignment : Assignment}
    (h : Segment.read segment = .ok assignment) (q : Query) (log : List Event) (segments : List (List Char)) :
    readSegments (q, log) (segment :: segments) = readSegments (q.set assignment, log) segments := by
  rw [readSegments_cons, Segment.readSegment_eq, h]

theorem readSegments_cons_error {segment : List Char} {event : Event}
    (h : Segment.read segment = .error event) (q : Query) (log : List Event) (segments : List (List Char)) :
    readSegments (q, log) (segment :: segments) = readSegments (q, log ++ [event]) segments := by
  rw [readSegments_cons, Segment.readSegment_eq, h]

theorem options_set (q : Query) (assignment : Assignment) : (q.set assignment).options = q.options := by
  cases assignment <;> rfl

theorem options_readSegments (q : Query) (log : List Event) (segments : List (List Char)) :
    (readSegments (q, log) segments).1.options = q.options := by
  induction segments generalizing q log with
  | nil => rfl
  | cons segment segments ih =>
    cases hread : Segment.read segment with
    | ok assignment =>
      rw [readSegments_cons_ok hread, ih, options_set]
    | error event =>
      rw [readSegments_cons_error hread, ih]

theorem options_parse (raw : String) (o : Options) : (parse raw o).options = o :=
  options_readSegments (withOptions o) [] _

theorem readSegments_present {α : Type} {key : String} {value : α → ParameterValue}
    {assignment : α → Assignment} (h : ∀ a, Segment.Gives ⟨key, value a⟩ (assignment a))
    (q : Query) (log : List Event) (part : Option α) :
    readSegments (q, log) ((Parameter.present key value part).map Parameter.coded) =
      (part.elim q fun a => q.set (assignment a), log) := by
  cases part with
  | none => rfl
  | some a => exact readSegments_cons_ok (h a).sets.read_eq q log []

theorem parseLogged_parameters (r : Record) (o : Options) :
    parseLogged (Parameter.queryString r.parameters) o = (ofRecord r o, []) := by
  rw [parseLogged, Segment.split_queryString fun p hp => Record.isUnreservedChar_of_mem_key hp]
  simp only [Record.parameters, List.map_append, readSegments_append,
    readSegments_present Segment.Gives.filters, readSegments_present Segment.Gives.sorts,
    readSegments_present Segment.Gives.page, readSegments_present Segment.Gives.pageSize]
  obtain ⟨filters, sorts, page, pageSize⟩ := r
  cases filters <;> cases sorts <;> cases page <;> cases pageSize <;> rfl

theorem parse_parameters (r : Record) (o : Options) :
    parse (Parameter.queryString r.parameters) o = ofRecord r o := by
  rw [parse, parseLogged_parameters]

end Query

end ListQuery
