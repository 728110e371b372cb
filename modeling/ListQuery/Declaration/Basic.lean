/-!
# Declarations

A type declaration as data: its kind, its fields and the attributes on them.
-/

namespace ListQuery

inductive Literal where
  | string (s : String)
  | number (text : String)
  | bool (b : Bool)
  deriving DecidableEq, Repr

/-- One item between the parentheses of an attribute: `key` or `key = value`.
No other item can be written down here, such as a literal alone, `key(value)`
or an item without a comma behind it. -/
structure AttributeItem where
  key : String
  value : Option Literal
  deriving DecidableEq, Repr

inductive AttributeForm where
  | bare
  | assigned (value : Literal)
  | listed (items : List AttributeItem)
  deriving DecidableEq, Repr

structure Attribute where
  path : String
  form : AttributeForm
  deriving DecidableEq, Repr

structure DeclaredField where
  ident : String
  type : String
  attributes : List Attribute
  deriving DecidableEq, Repr

inductive DeclarationKind where
  | namedStruct
  | tupleStruct
  | unitStruct
  | enumeration
  | union
  deriving DecidableEq, Repr

/-- `visibility`, `parameters` and the types of the fields are source text.
The conditions on the parameters come behind them in one text. -/
structure Declaration where
  kind : DeclarationKind
  name : String
  visibility : String
  parameters : String
  fields : List DeclaredField
  deriving DecidableEq, Repr

end ListQuery
