import ListQuery.Json
import ListQuery.Number.Digits
import ListQuery.Text.Utf8

/-!
# Events

What a query reports on its way: the parts of a query string that it ignores,
and the clauses that it removes.
-/

namespace ListQuery

inductive Level where
  | debug
  | trace
  deriving DecidableEq, Repr

def Level.name : Level → String
  | debug => "debug"
  | trace => "trace"

inductive Event where
  | valueless (segment : String)
  | undecodable (segment : String) (fault : Text.Utf8.Fault)
  | badNumber (key value : String) (fault : Unsigned.Fault)
  | unknownKey (key : String)
  | removed (field : String) (count : Nat)
  deriving DecidableEq, Repr

namespace Event

def level : Event → Level
  | valueless _ | undecodable .. | badNumber .. => .debug
  | unknownKey _ | removed .. => .trace

def message : Event → String
  | valueless _ => "ignoring sieve parameter without value"
  | undecodable .. => "ignoring undecodable sieve parameter"
  | badNumber .. => "ignoring unparseable sieve page number"
  | unknownKey _ => "ignoring unknown sieve parameter"
  | removed .. => "removed sieve filters"

def details : Event → List (String × Json)
  | valueless segment => [("segment", .string segment)]
  | undecodable segment fault => [("segment", .string segment), ("error", .string fault.message)]
  | badNumber key value fault =>
    [("key", .string key), ("value", .string value), ("error", .string fault.message)]
  | unknownKey key => [("key", .string key)]
  | removed field count => [("field", .string field), ("removed", .number count 0)]

end Event

end ListQuery
