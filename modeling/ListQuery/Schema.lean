import ListQuery.Options

/-!
# Schemas

The fields that a resource declares. Each has a name on the wire and the name
of the record member behind it.
-/

namespace ListQuery

structure Field where
  name : String
  member : String
  deriving DecidableEq, Repr

structure Schema (F : Type) where
  fields : List F
  name : F → String
  member : F → String

namespace Schema

variable {F : Type}

/-- The schema without fields, for queries that name their fields themselves. -/
def untyped : Schema Empty :=
  ⟨[], nofun, nofun⟩

/-- The schema of listed fields, their positions being the keys. -/
def ofFields (fields : List Field) : Schema (Fin fields.length) :=
  ⟨List.finRange fields.length, fun i => fields[i].name, fun i => fields[i].member⟩

def wireName (S : Schema F) (fieldCase : FieldCase) (f : F) : String :=
  fieldCase.apply (S.name f)

end Schema

end ListQuery
