/-!
# Comparison operators

Eight operators, each with the symbol that stands between the field and the
value of a clause.
-/

namespace ListQuery

inductive Operator where
  | equals
  | notEquals
  | greaterThanOrEqual
  | lessThanOrEqual
  | contains
  | startsWith
  | greaterThan
  | lessThan
  deriving DecidableEq, Repr

namespace Operator

/-- The order in which symbols are tried at one place: the bare comparisons
come last, so `>=` is not taken for `>` and a value that starts with `=`. -/
def priority : List Operator :=
  [equals, notEquals, greaterThanOrEqual, lessThanOrEqual, contains, startsWith, greaterThan,
    lessThan]

def chars : Operator → List Char
  | equals => ['=', '=']
  | notEquals => ['!', '=']
  | greaterThanOrEqual => ['>', '=']
  | lessThanOrEqual => ['<', '=']
  | contains => ['@', '=']
  | startsWith => ['_', '=']
  | greaterThan => ['>']
  | lessThan => ['<']

def symbol (op : Operator) : String :=
  String.ofList op.chars

def name : Operator → String
  | equals => "Equals"
  | notEquals => "NotEquals"
  | greaterThanOrEqual => "GreaterThanOrEqual"
  | lessThanOrEqual => "LessThanOrEqual"
  | contains => "Contains"
  | startsWith => "StartsWith"
  | greaterThan => "GreaterThan"
  | lessThan => "LessThan"

structure Unknown where
  symbol : String
  deriving DecidableEq, Repr

def Unknown.message (unknown : Unknown) : String :=
  "unknown sieve operator: " ++ unknown.symbol

def ofSymbol (symbol : String) : Except Unknown Operator :=
  match priority.find? (·.symbol == symbol) with
  | some op => .ok op
  | none => .error ⟨symbol⟩

def leading (text : List Char) : Option (Operator × List Char) :=
  priority.findSome? fun op => (op.chars.isPrefixOf? text).map fun rest => (op, rest)

theorem mem_priority (op : Operator) : op ∈ priority := by
  cases op <;> decide

theorem toList_symbol (op : Operator) : op.symbol.toList = op.chars :=
  String.toList_ofList

end Operator

end ListQuery
