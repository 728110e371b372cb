import ListQuery.Query.Reading

/-!
# Parts of queries

The four parts that a query has beside its options. A query is known by what
stands in them.
-/

namespace ListQuery

inductive Part where
  | filters
  | sorts
  | page
  | pageSize
  deriving DecidableEq

def Part.key : Part → String
  | .filters => "filters"
  | .sorts => "sorts"
  | .page => "page"
  | .pageSize => "pagesize"

def Assignment.part : Assignment → Part
  | .filters _ => .filters
  | .sorts _ => .sorts
  | .page _ => .page
  | .pageSize _ => .pageSize

/-- What stands in a part of a query, as what sets it. -/
def Query.content (q : Query) : Part → Option Assignment
  | .filters => some (.filters q.filters)
  | .sorts => some (.sorts q.sorts)
  | .page => q.page.map .page
  | .pageSize => q.pageSize.map .pageSize

theorem Query.content_set (q : Query) (assignment : Assignment) (part : Part) :
    (q.set assignment).content part = if part = assignment.part then some assignment else q.content part := by
  cases assignment <;> cases part <;> rfl

namespace Query

theorem content_filters {q r : Query} :
    q.content .filters = r.content .filters ↔ q.filters = r.filters := by
  simp [content]

theorem content_sorts {q r : Query} : q.content .sorts = r.content .sorts ↔ q.sorts = r.sorts := by
  simp [content]

theorem content_page {q r : Query} : q.content .page = r.content .page ↔ q.page = r.page := by
  cases hq : q.page <;> cases hr : r.page <;> simp [content, hq, hr]

theorem content_pageSize {q r : Query} :
    q.content .pageSize = r.content .pageSize ↔ q.pageSize = r.pageSize := by
  cases hq : q.pageSize <;> cases hr : r.pageSize <;> simp [content, hq, hr]

theorem eq_of_content {q r : Query} (hoptions : q.options = r.options)
    (h : ∀ part, q.content part = r.content part) : q = r := by
  have hfilters := content_filters.mp (h .filters)
  have hsorts := content_sorts.mp (h .sorts)
  have hpage := content_page.mp (h .page)
  have hpageSize := content_pageSize.mp (h .pageSize)
  cases q
  cases r
  simp_all

end Query

end ListQuery
