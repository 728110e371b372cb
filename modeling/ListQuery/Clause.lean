import ListQuery.Operator

/-!
# Filter clauses and sort tokens

A clause is the text `<field><operator><value>` without separators. Nothing
in it is escaped: the operator is the leftmost one, and the text around it is
the field and the value. A sort token is a field name, with one `-` in front
for descending order.
-/

namespace ListQuery

-- ---------------------------------------------------------------------------
-- Clauses
-- ---------------------------------------------------------------------------

/-- A clause seen as its parts; a text without operator is all field. -/
structure Clause where
  fieldName : String
  operator : Option Operator
  rawValue : String
  text : String
  deriving DecidableEq, Repr

namespace Clause

def leftmost : List Char → Option (List Char × Operator × List Char)
  | [] => none
  | c :: rest =>
    match Operator.leading (c :: rest) with
    | some (op, value) => some ([], op, value)
    | none => (leftmost rest).map fun (field, op, value) => (c :: field, op, value)

/-- The leftmost operator behind the start of the text. An operator at the
very start is no operator but part of the field, and so are both characters
of a `==` there. -/
def split : List Char → Option (List Char × Operator × List Char)
  | [] => none
  | '=' :: '=' :: rest => (leftmost rest).map fun (field, op, value) => ('=' :: '=' :: field, op, value)
  | c :: rest => (leftmost rest).map fun (field, op, value) => (c :: field, op, value)

def parse (text : String) : Clause :=
  match split text.toList with
  | some (field, op, value) => ⟨String.ofList field, some op, String.ofList value, text⟩
  | none => ⟨text, none, "", text⟩

def symbol (clause : Clause) : String :=
  match clause.operator with
  | some op => op.symbol
  | none => ""

def compose (field symbol value : String) : String :=
  field ++ symbol ++ value

def fieldOf (text : String) : String :=
  (parse text).fieldName

theorem text_parse (text : String) : (parse text).text = text := by
  unfold parse
  split <;> rfl

end Clause

-- ---------------------------------------------------------------------------
-- Sort tokens
-- ---------------------------------------------------------------------------

structure SortKey where
  fieldName : String
  descending : Bool
  text : String
  deriving DecidableEq, Repr

namespace SortKey

def parse (token : String) : SortKey :=
  match token.toList with
  | '-' :: field => ⟨String.ofList field, true, token⟩
  | _ => ⟨token, false, token⟩

def compose (field : String) (descending : Bool) : String :=
  if descending then "-" ++ field else field

theorem text_parse (token : String) : (parse token).text = token := by
  unfold parse
  split <;> rfl

theorem compose_parse (token : String) :
    compose (parse token).fieldName (parse token).descending = token := by
  unfold parse
  split
  · next field h =>
    apply String.toList_inj.mp
    simp [compose, h]
  · rfl

end SortKey

end ListQuery
