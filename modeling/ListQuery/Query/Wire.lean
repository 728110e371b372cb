import ListQuery.Query.Basic

/-!
# Queries on the wire

A query as parameters, as a query string and as a record. A list without
tokens is left out of all three. The JSON form of a record is an object without
the parts that are absent.
-/

namespace ListQuery

structure Record where
  filters : Option String := none
  sorts : Option String := none
  page : Option UInt32 := none
  pageSize : Option UInt32 := none
  deriving DecidableEq, Repr

namespace Record

def ofParts (filters sorts page pageSize : Option Json) : Option Record := do
  let filters ← Json.nullable Json.toString? filters
  let sorts ← Json.nullable Json.toString? sorts
  let page ← Json.nullable Json.toUInt32? page
  let pageSize ← Json.nullable Json.toUInt32? pageSize
  return { filters, sorts, page, pageSize }

/-- The parts as members, where other members do not matter, or as the items
of an array. -/
def ofJson : Json → Option Record
  | .object members =>
    ofParts (members.lookup "filters") (members.lookup "sorts") (members.lookup "page")
      (members.lookup "pageSize")
  | .array items =>
    if items.length ≤ 4 then ofParts items[0]? items[1]? items[2]? items[3]? else none
  | _ => none

def member {α : Type} (key : String) (write : α → Json) (part : Option α) : List (String × Json) :=
  match part with
  | none => []
  | some a => [(key, write a)]

def toJson (r : Record) : Json :=
  .object (member "filters" .string r.filters ++ member "sorts" .string r.sorts ++
    member "page" .natural r.page ++ member "pageSize" .natural r.pageSize)

end Record

namespace Query

def toParameters (q : Query) : List Parameter :=
  Parameter.ofText Parameter.filtersKey q.filterText ++
    (Parameter.ofText Parameter.sortsKey q.sortText ++
      (Parameter.ofNumber Parameter.pageKey q.page ++
        Parameter.ofNumber Parameter.pageSizeKey q.pageSize))

def toQueryString (q : Query) : String :=
  Parameter.queryString q.toParameters

def presentText (text : String) : Option String :=
  if text = "" then none else some text

/-- The record also holds the paging that the options put in for what is not set. -/
def toRecord (q : Query) : Record :=
  let (page, pageSize) := q.options.paging.resolve q.page q.pageSize
  { filters := presentText q.filterText, sorts := presentText q.sortText, page, pageSize }

end Query

end ListQuery
