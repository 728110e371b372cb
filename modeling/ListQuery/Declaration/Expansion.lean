import ListQuery.Declaration.Derived

/-!
# Expansions

How the schema of a declaration is written, step by step. A fault of an
attribute is reported where it is met, and the walk over the fields goes on.
An error that leaves nothing to go on with ends the walk behind what was
reported before it; a name that is no identifier ends it without any report.
-/

namespace ListQuery

inductive Halt where
  | refused (error : DeclarationError)
  | illegalName
  deriving DecidableEq, Repr

/-- A step of an expansion. It has the errors reported so far, which stay
reported when it halts. -/
abbrev Expanding (α : Type) : Type :=
  ExceptT Halt (StateM (List DeclarationError)) α

namespace Expanding

def result {α : Type} (x : Expanding α) (reported : List DeclarationError) :
    Except Halt α × List DeclarationError :=
  (ExceptT.run x).run reported

def report (error : DeclarationError) : Expanding Unit :=
  modify (· ++ [error])

def refuse {α : Type} (error : DeclarationError) : Expanding α :=
  throw (.refused error)

def identifier (name : List Char) : Expanding String :=
  if Text.isIdentifier name then pure (String.ofList name) else throw .illegalName

end Expanding

structure Constructor where
  name : String
  type : String
  variant : String
  deriving DecidableEq, Repr

/-- What is written for the fields: the variants in their order, and by
variants the names, the members and the constructors. -/
structure FieldTables where
  variants : List String := []
  names : List (String × String) := []
  members : List (String × String) := []
  constructors : List Constructor := []
  deriving DecidableEq, Repr

structure Expansion where
  visibility : String
  enumName : String
  schemaName : String
  moduleName : String
  tables : FieldTables
  deriving DecidableEq, Repr

namespace Expansion

def toSchema (e : Expansion) : Schema String where
  fields := e.tables.variants
  name variant := (e.tables.names.lookup variant).getD ""
  member variant := (e.tables.members.lookup variant).getD ""

def construct? (e : Expansion) (name : String) : Option String :=
  (e.tables.constructors.find? (·.name == name)).map (·.variant)

end Expansion

namespace Expanding

def readAttributes (settings : FieldSettings) : List Attribute → Expanding FieldSettings
  | [] => pure settings
  | first :: rest => do
    if first.path = "sieve" then
      let (next, fault) := settings.readForm first.form
      match fault with
      | some fault => report (.badAttribute fault)
      | none => pure ()
      readAttributes next rest
    else readAttributes settings rest

def addField (schemaName : String) (tables : FieldTables) (field : DeclaredField) :
    Expanding FieldTables := do
  let settings ← readAttributes {} field.attributes
  if settings.skip then return tables
  let wireName := settings.name.getD (String.ofList (Text.lowerCamel field.plain))
  let variant ← identifier field.variant
  let type := "::modkit_sieve::schema::FieldRef<" ++ schemaName ++ "," ++
    compact (arrangeArguments (lexemes field.type)) ++ ">"
  return {
    variants := tables.variants ++ [variant]
    names := tables.names ++ [(variant, wireName)]
    members := tables.members ++ [(variant, String.ofList field.plain)]
    constructors := tables.constructors ++ [⟨field.ident, type, variant⟩] }

end Expanding

namespace Declaration

open Expanding (identifier refuse addField)

inductive Outcome where
  | written (e : Expansion)
  | errors (errors : List DeclarationError)
  | illegalName
  deriving DecidableEq, Repr

def expandFields (d : Declaration) : Expanding Expansion := do
  let enumName ← identifier d.enumName.toList
  let schemaName ← identifier d.schemaName.toList
  let moduleName ← identifier d.moduleName.toList
  let tables ← d.fields.foldlM (addField schemaName) {}
  if tables.variants = [] then refuse .noFields
  else
    let visibility := compact ((lexemes d.visibility).filter (·.kind ≠ .note))
    return { visibility, enumName, schemaName, moduleName, tables }

def expand (d : Declaration) : Expanding Expansion :=
  if d.isGeneric then refuse .generic
  else
    match d.kind with
    | .enumeration | .union => refuse .notStruct
    | .tupleStruct | .unitStruct => refuse .unnamedFields
    | .namedStruct => d.expandFields

/-- Nothing is written where errors were reported. -/
def outcome (d : Declaration) : Outcome :=
  match d.expand.result [] with
  | (.error .illegalName, _) => .illegalName
  | (.error (.refused error), reported) => .errors (reported ++ [error])
  | (.ok e, []) => .written e
  | (.ok _, reported) => .errors reported

end Declaration

end ListQuery
