import ListQuery.Clause
import ListQuery.Event
import ListQuery.Parameter
import ListQuery.Schema
import ListQuery.Value

/-!
# Queries

Filter clauses and sort tokens in order, page and page size, and the options
they are written with. Clauses and tokens are kept as texts.
-/

namespace ListQuery

structure Query where
  filters : List String := []
  sorts : List String := []
  page : Option UInt32 := none
  pageSize : Option UInt32 := none
  options : Options := {}
  deriving DecidableEq, Repr

namespace Query

variable {F : Type}

def withOptions (options : Options) : Query :=
  { options }

/-- Queries are equal that ask for the same; the options are no part of it. -/
def same (q r : Query) : Bool :=
  q.filters == r.filters && q.sorts == r.sorts && q.page == r.page && q.pageSize == r.pageSize

/-- Adds a clause at the end; an empty text is no clause. -/
def pushFilter (q : Query) (clause : String) : Query :=
  if clause = "" then q else { q with filters := q.filters ++ [clause] }

def pushSort (q : Query) (token : String) : Query :=
  if token = "" then q else { q with sorts := q.sorts ++ [token] }

def removeByName (q : Query) (name : String) : Query :=
  { q with filters := q.filters.filter fun clause => Clause.fieldOf clause != name }

def removalEvents (q : Query) (name : String) : List Event :=
  let removed := q.filters.length - (q.removeByName name).filters.length
  if 0 < removed then [.removed name removed] else []

def wireName (S : Schema F) (q : Query) (f : F) : String :=
  S.wireName q.options.fieldCase f

def hasFilter (q : Query) (name : String) : Bool :=
  q.filters.any fun clause => Clause.fieldOf clause == name

def hasSort (q : Query) (name : String) : Bool :=
  q.sorts.any fun token => (SortKey.parse token).fieldName == name

def hasFilterFor (S : Schema F) (q : Query) (f : F) : Bool :=
  q.hasFilter (q.wireName S f)

def hasSortFor (S : Schema F) (q : Query) (f : F) : Bool :=
  q.hasSort (q.wireName S f)

def clauses (q : Query) : List Clause :=
  q.filters.map Clause.parse

def sortKeys (q : Query) : List SortKey :=
  q.sorts.map SortKey.parse

def filterText (q : Query) : String :=
  TokenList.join q.filters

def sortText (q : Query) : String :=
  TokenList.join q.sorts

end Query

end ListQuery
