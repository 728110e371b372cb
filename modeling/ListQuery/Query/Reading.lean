import ListQuery.Query.Wire
import ListQuery.Text.Casing

/-!
# Reading queries back

A query from a record or from a query string. Reading never fails: a segment
of a query string sets one part of the query, or it is ignored and reported.
-/

namespace ListQuery

-- ---------------------------------------------------------------------------
-- Segments
-- ---------------------------------------------------------------------------

inductive Assignment where
  | filters (tokens : List String)
  | sorts (tokens : List String)
  | page (n : UInt32)
  | pageSize (n : UInt32)
  deriving DecidableEq, Repr

namespace Segment

def dropMark (cs : List Char) : List Char :=
  match cs with
  | '?' :: rest => rest
  | _ => cs

def split (raw : List Char) : List (List Char) :=
  (Text.pieces '&' (dropMark (Text.trim raw))).filter (· ≠ [])

/-- A page number, and the log with the fault if there is no number. -/
def loggedNumber (key value : List Char) (log : List Event) : Option UInt32 × List Event :=
  match Unsigned.read (Text.trim value) with
  | .ok n => (some n, log)
  | .error fault => (none, log ++ [.badNumber (String.ofList key) (String.ofList value) fault])

end Segment

namespace Query

-- ---------------------------------------------------------------------------
-- Query strings
-- ---------------------------------------------------------------------------

def set (q : Query) : Assignment → Query
  | .filters tokens => { q with filters := tokens }
  | .sorts tokens => { q with sorts := tokens }
  | .page n => { q with page := some n }
  | .pageSize n => { q with pageSize := some n }

/-- Reads one segment on top of what was read and reported before. -/
def readSegment (state : Query × List Event) (segment : List Char) : Query × List Event :=
  let (q, log) := state
  match Text.cut '=' segment with
  | none => (q, log ++ [.valueless (String.ofList segment)])
  | some (key, coded) =>
    match Text.Percent.decode coded with
    | .error fault => (q, log ++ [.undecodable (String.ofList segment) fault])
    | .ok value =>
      let name := String.ofList (Text.lower key)
      if name = "filters" then (q.set (.filters (TokenList.split (String.ofList value))), log)
      else if name = "sorts" then (q.set (.sorts (TokenList.split (String.ofList value))), log)
      else if name = "page" then
        match Segment.loggedNumber key value log with
        | (some n, later) => (q.set (.page n), later)
        | (none, later) => (q, later)
      else if name = "pagesize" then
        match Segment.loggedNumber key value log with
        | (some n, later) => (q.set (.pageSize n), later)
        | (none, later) => (q, later)
      else (q, log ++ [.unknownKey name])

def readSegments (state : Query × List Event) (segments : List (List Char)) : Query × List Event :=
  segments.foldl readSegment state

def parseLogged (raw : String) (options : Options) : Query × List Event :=
  readSegments (withOptions options, []) (Segment.split raw.toList)

def parse (raw : String) (options : Options := {}) : Query :=
  (parseLogged raw options).1

-- ---------------------------------------------------------------------------
-- Records
-- ---------------------------------------------------------------------------

def tokensOf (list : Option String) : List String :=
  match list with
  | none => []
  | some list => TokenList.split list

def ofRecord (record : Record) (options : Options := {}) : Query :=
  { filters := tokensOf record.filters
    sorts := tokensOf record.sorts
    page := record.page
    pageSize := record.pageSize
    options }

end Query

end ListQuery
