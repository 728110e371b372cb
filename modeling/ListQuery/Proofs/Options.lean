import ListQuery.Options
import Mathlib.Data.List.Basic

/-!
# Keys of options

Where in the JSON form of options a key may stand. A key that is not declared
where it stands makes the form unreadable, but for the content of `fallback`:
there it is passed over, and what it was meant to set has its default.
-/

namespace ListQuery

-- ---------------------------------------------------------------------------
-- Declared keys
-- ---------------------------------------------------------------------------

inductive OptionsPlace where
  | options
  | fieldCase
  | paging
  | fallback
  /-- A number, or null: nothing is declared inside. -/
  | leaf
  deriving DecidableEq

namespace OptionsPlace

def member? : OptionsPlace → String → Option OptionsPlace
  | options, "field_case" => some fieldCase
  | options, "pagination" => some paging
  | fieldCase, "pascal" | fieldCase, "as_declared" | paging, "omit" => some leaf
  | paging, "fallback" => some fallback
  | fallback, "page" | fallback, "page_size" => some leaf
  | _, _ => none

/-- The place of an item of an array. Options may be written without keys. -/
def item : OptionsPlace → Nat → OptionsPlace
  | options, 0 => fieldCase
  | options, 1 => paging
  | _, _ => leaf

end OptionsPlace

namespace Json

end Json

namespace PagingPolicy

end PagingPolicy

-- ---------------------------------------------------------------------------
-- Options
-- ---------------------------------------------------------------------------

namespace Options

end Options

end ListQuery
