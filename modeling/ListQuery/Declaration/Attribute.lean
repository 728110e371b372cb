import ListQuery.Declaration.Basic

/-!
# Field attributes

The attributes `#[sieve(...)]` of a field give it a name or leave it out of
the schema. Other attributes do not count. Each attribute is read up to its
first fault, and what stands before the fault holds.
-/

namespace ListQuery

inductive AttributeFault where
  | noArguments
  | noParentheses
  | unknownItem
  | noValue
  | notString
  | trailing
  deriving DecidableEq, Repr

def AttributeFault.message : AttributeFault → String
  | noArguments => "expected attribute arguments in parentheses: #[sieve(...)]"
  | noParentheses => "expected parentheses: #[sieve(...)]"
  | unknownItem => "expected `name = \"...\"` or `skip`"
  | noValue => "expected `=`"
  | notString => "expected string literal"
  | trailing => "expected `,`"

structure FieldSettings where
  name : Option String := none
  skip : Bool := false
  deriving DecidableEq, Repr

namespace FieldSettings

/-- Reads the items of one attribute. The last name wins, and a value behind
`skip` is a fault that comes too late to undo it. -/
def readItems (settings : FieldSettings) : List AttributeItem → FieldSettings × Option AttributeFault
  | [] => (settings, none)
  | ⟨"name", some (.string name)⟩ :: rest => { settings with name := some name }.readItems rest
  | ⟨"name", some _⟩ :: _ => (settings, some .notString)
  | ⟨"name", none⟩ :: _ => (settings, some .noValue)
  | ⟨"skip", none⟩ :: rest => { settings with skip := true }.readItems rest
  | ⟨"skip", some _⟩ :: _ => ({ settings with skip := true }, some .trailing)
  | _ :: _ => (settings, some .unknownItem)

def readForm (settings : FieldSettings) : AttributeForm → FieldSettings × Option AttributeFault
  | .bare => (settings, some .noArguments)
  | .assigned _ => (settings, some .noParentheses)
  | .listed items => settings.readItems items

def readAttributes (settings : FieldSettings) : List Attribute → FieldSettings × List AttributeFault
  | [] => (settings, [])
  | first :: rest =>
    if first.path = "sieve" then
      let (next, fault) := settings.readForm first.form
      let (last, faults) := next.readAttributes rest
      (last, fault.toList ++ faults)
    else settings.readAttributes rest

end FieldSettings

namespace DeclaredField

def settings (field : DeclaredField) : FieldSettings :=
  (FieldSettings.readAttributes {} field.attributes).1

def faults (field : DeclaredField) : List AttributeFault :=
  (FieldSettings.readAttributes {} field.attributes).2

end DeclaredField

end ListQuery
