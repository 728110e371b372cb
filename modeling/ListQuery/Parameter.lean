import ListQuery.Json
import ListQuery.Text.Cut
import ListQuery.Text.Percent

/-!
# Query parameters

Keys with a text or a number, and the query string of a list of them.
-/

namespace ListQuery

inductive ParameterValue where
  | text (s : String)
  | number (n : UInt32)
  deriving DecidableEq, Repr

structure Parameter where
  key : String
  value : ParameterValue
  deriving DecidableEq, Repr

namespace ParameterValue

def toText : ParameterValue → String
  | text s => s
  | number n => n.toNat.repr

def toJson : ParameterValue → Json
  | text s => .string s
  | number n => .natural n

/-- A text is coded as one opaque component, a number stands for itself. -/
def coded : ParameterValue → List Char
  | text s => Text.Percent.encode s.toList
  | number n => n.toNat.repr.toList

end ParameterValue

namespace Parameter

def filtersKey : String := "filters"
def sortsKey : String := "sorts"
def pageKey : String := "page"
def pageSizeKey : String := "pageSize"

def coded (p : Parameter) : List Char :=
  p.key.toList ++ '=' :: p.value.coded

def ofText (key text : String) : List Parameter :=
  if text = "" then [] else [⟨key, .text text⟩]

def ofNumber (key : String) (number : Option UInt32) : List Parameter :=
  match number with
  | none => []
  | some n => [⟨key, .number n⟩]

def queryString (parameters : List Parameter) : String :=
  String.ofList (Text.joinWith '&' (parameters.map coded))

end Parameter

end ListQuery
