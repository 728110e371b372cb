import ListQuery.Number.Binary
import ListQuery.Number.Decimal
import ListQuery.Time.Zone
import ListQuery.Uuid

/-!
# Filter values

The values that a clause compares a field with, and the one text each has in
a clause.
-/

namespace ListQuery

/-- Numbers in floating point are kept as their bits. -/
inductive Value where
  | null
  | bool (b : Bool)
  | int (n : Int64)
  | uint (n : UInt64)
  | single (bits : UInt32)
  | double (bits : UInt64)
  | decimal (d : Decimal)
  | uuid (u : Uuid)
  | instant (i : Instant)
  | text (s : String)
  deriving DecidableEq, Repr, Inhabited

namespace Value

def ofSingle (bits : UInt32) : Binary :=
  Binary.ofBits .single bits.toNat

def ofDouble (bits : UInt64) : Binary :=
  Binary.ofBits .double bits.toNat

def chars : Value → List Char
  | null => []
  | bool b => if b then "true".toList else "false".toList
  | int n => intChars n.toInt
  | uint n => natChars n.toNat
  | single bits => (ofSingle bits).text
  | double bits => (ofDouble bits).text
  | decimal d => d.text
  | uuid u => u.text
  | instant i => i.text
  | text s => s.toList

/-- The text of the value behind an operator; null has the empty text. -/
def format (v : Value) : String :=
  String.ofList v.chars

def kind : Value → String
  | null => "Null"
  | bool _ => "Bool"
  | int _ => "Int"
  | uint _ => "UInt"
  | single _ => "Float32"
  | double _ => "Float"
  | decimal _ => "Decimal"
  | uuid _ => "Uuid"
  | instant _ => "DateTime"
  | text _ => "String"

end Value

class ToValue (α : Type) where
  toValue : α → Value

export ToValue (toValue)

instance : ToValue Value := ⟨id⟩
instance : ToValue Bool := ⟨.bool⟩
instance : ToValue Int8 := ⟨fun n => .int n.toInt64⟩
instance : ToValue Int16 := ⟨fun n => .int n.toInt64⟩
instance : ToValue Int32 := ⟨fun n => .int n.toInt64⟩
instance : ToValue Int64 := ⟨.int⟩
instance : ToValue UInt8 := ⟨fun n => .uint n.toUInt64⟩
instance : ToValue UInt16 := ⟨fun n => .uint n.toUInt64⟩
instance : ToValue UInt32 := ⟨fun n => .uint n.toUInt64⟩
instance : ToValue UInt64 := ⟨.uint⟩
instance : ToValue Float32 := ⟨fun x => .single x.toBits⟩
instance : ToValue Float := ⟨fun x => .double x.toBits⟩
instance : ToValue Decimal := ⟨.decimal⟩
instance : ToValue Uuid := ⟨.uuid⟩
instance : ToValue Instant := ⟨.instant⟩
instance : ToValue WallClock := ⟨fun w => .instant (Zone.toInstant w)⟩
instance : ToValue String := ⟨.text⟩

instance {α : Type} [ToValue α] : ToValue (Option α) :=
  ⟨fun | none => .null | some a => toValue a⟩

end ListQuery
