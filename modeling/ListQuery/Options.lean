import ListQuery.Json
import ListQuery.Text.Casing

/-!
# Options

How declared field names are spelled, and what a record reports for paging
that was never set. Both have a JSON form.
-/

namespace ListQuery

inductive FieldCase where
  | pascal
  | asDeclared
  deriving DecidableEq, Repr

namespace FieldCase

def apply : FieldCase → String → String
  | pascal, name => String.ofList (Text.capitalizeFirst name.toList)
  | asDeclared, name => name

def ofJson (json : Json) : Option FieldCase :=
  if json.isChoice "pascal" then some .pascal
  else if json.isChoice "as_declared" then some .asDeclared
  else none

def toJson : FieldCase → Json
  | pascal => .string "pascal"
  | asDeclared => .string "as_declared"

end FieldCase

/-- What stands for a page and a page size that are not set: nothing, or
fixed numbers. -/
inductive PagingPolicy where
  | leaveOut
  | fallback (page pageSize : UInt32)
  deriving DecidableEq, Repr

namespace PagingPolicy

def firstPage : UInt32 := 1

def usualPageSize : UInt32 := 10

def conventional : PagingPolicy :=
  .fallback firstPage usualPageSize

def resolve (policy : PagingPolicy) (page pageSize : Option UInt32) :
    Option UInt32 × Option UInt32 :=
  match policy with
  | leaveOut => (page, pageSize)
  | fallback defaultPage defaultSize => (some (page.getD defaultPage), some (pageSize.getD defaultSize))

/-- Page and page size as members, where other members do not matter. -/
def fallbackOfJson : Json → Option PagingPolicy
  | .object members => do
    let page ← Json.withDefault Json.toUInt32? firstPage (← Json.single? "page" members)
    let pageSize ← Json.withDefault Json.toUInt32? usualPageSize (← Json.single? "page_size" members)
    return .fallback page pageSize
  | _ => none

def ofJson (json : Json) : Option PagingPolicy :=
  if json.isChoice "omit" then some .leaveOut
  else
    match json with
    | .object [("fallback", content)] => fallbackOfJson content
    | _ => none

def toJson : PagingPolicy → Json
  | leaveOut => .string "omit"
  | fallback page pageSize =>
    .object [("fallback", .object [("page", .natural page), ("page_size", .natural pageSize)])]

end PagingPolicy

structure Options where
  fieldCase : FieldCase := .pascal
  paging : PagingPolicy := .leaveOut
  deriving DecidableEq, Repr

namespace Options

/-- Field case and paging as members, with no others beside them, or as the
items of an array. -/
def ofJson : Json → Option Options
  | .object members =>
    if members.all fun (key, _) => key == "field_case" || key == "pagination" then do
      let fieldCase ← Json.withDefault FieldCase.ofJson .pascal (← Json.single? "field_case" members)
      let paging ← Json.withDefault PagingPolicy.ofJson .leaveOut (← Json.single? "pagination" members)
      return { fieldCase, paging }
    else none
  | .array items =>
    if items.length ≤ 2 then do
      let fieldCase ← Json.withDefault FieldCase.ofJson .pascal items[0]?
      let paging ← Json.withDefault PagingPolicy.ofJson .leaveOut items[1]?
      return { fieldCase, paging }
    else none
  | _ => none

def toJson (o : Options) : Json :=
  .object [("field_case", o.fieldCase.toJson), ("pagination", o.paging.toJson)]

end Options

end ListQuery
