import ListQuery.Declaration.ArgumentList
import ListQuery.Declaration.Attribute
import ListQuery.Schema
import ListQuery.Text.Identifier
import ListQuery.Text.Words

/-!
# Derived schemas

The schema of a declaration: an enumeration with one variant for each field,
the names of the fields, and a module with a constructor for each of them. A
declaration may be refused with errors, or because a name that would be made
up for it cannot be written.
-/

namespace ListQuery

inductive DeclarationError where
  | generic
  | notStruct
  | unnamedFields
  | badAttribute (fault : AttributeFault)
  | noFields
  deriving DecidableEq, Repr

def DeclarationError.message : DeclarationError → String
  | generic => "SieveSchema does not support generic structs"
  | notStruct => "SieveSchema can only be derived for structs"
  | unnamedFields => "SieveSchema only supports structs with named fields"
  | badAttribute fault => "Failed to parse #[sieve] attribute: " ++ fault.message
  | noFields => "SieveSchema needs at least one field that is not skipped"

structure DerivedField where
  variant : String
  wireName : String
  member : String
  constructor : String
  /-- The type of the constructor. -/
  type : String
  deriving DecidableEq, Repr

structure DerivedSchema where
  visibility : String
  enumName : String
  schemaName : String
  moduleName : String
  fields : List DerivedField
  deriving DecidableEq, Repr

namespace DerivedSchema

/-- The field of a variant; of two with one variant the first counts. -/
def field? (d : DerivedSchema) (variant : String) : Option DerivedField :=
  d.fields.find? (·.variant == variant)

def toSchema (d : DerivedSchema) : Schema String where
  fields := d.fields.map (·.variant)
  name variant := (d.field? variant).elim "" (·.wireName)
  member variant := (d.field? variant).elim "" (·.member)

end DerivedSchema

/-- What comes of a declaration: a schema, errors, no schema since a name made
up for it is no identifier, or text that cannot be read since such a name is
a reserved word. -/
inductive Derivation where
  | schema (d : DerivedSchema)
  | errors (errors : List DeclarationError)
  | illegalName
  | reservedName
  deriving DecidableEq, Repr

/-- An identifier without the mark that lets it be a reserved word. -/
def plainIdent (ident : List Char) : List Char :=
  match ident with
  | 'r' :: '#' :: rest => rest
  | _ => ident

def compact (xs : List Lexeme) : String :=
  String.ofList ((xs.flatMap (·.written)).filter fun c => !Text.isBlank c)

namespace DeclaredField

def plain (field : DeclaredField) : List Char :=
  plainIdent field.ident.toList

def variant (field : DeclaredField) : List Char :=
  Text.upperCamel field.plain

def wireName (field : DeclaredField) : String :=
  field.settings.name.getD (String.ofList (Text.lowerCamel field.plain))

def derive (field : DeclaredField) (schemaName : String) : DerivedField :=
  { variant := String.ofList field.variant
    wireName := field.wireName
    member := String.ofList field.plain
    constructor := field.ident
    type := "::modkit_sieve::schema::FieldRef<" ++ schemaName ++ "," ++
      compact (arrangeArguments (lexemes field.type)) ++ ">" }

end DeclaredField

namespace Declaration

/-- Whether anything stands between `<` and `>`. What comes behind them, or
without them, sets conditions and no parameters. -/
def isGeneric (d : Declaration) : Bool :=
  match lexemes d.parameters with
  | ⟨.mark, ['<']⟩ :: next :: _ => next.text != ['>']
  | _ => false

def enumName (d : Declaration) : String := d.name ++ "Field"

def schemaName (d : Declaration) : String := d.name ++ "Schema"

def moduleName (d : Declaration) : String :=
  String.ofList (Text.snake d.name.toList)

def kept (d : Declaration) : List DeclaredField :=
  d.fields.filter fun field => !field.settings.skip

def namesLegal (d : Declaration) : Bool :=
  [d.enumName, d.schemaName, d.moduleName].all (fun name => Text.isIdentifier name.toList) &&
    d.kept.all fun field => Text.isIdentifier field.variant

/-- The faults of all attributes in order, those of skipped fields too, and
then the want of fields. -/
def fieldErrors (d : Declaration) : List DeclarationError :=
  (d.fields.flatMap (·.faults)).map .badAttribute ++ if d.kept = [] then [.noFields] else []

def derived (d : Declaration) : DerivedSchema :=
  { visibility := compact ((lexemes d.visibility).filter (·.kind ≠ .note))
    enumName := d.enumName
    schemaName := d.schemaName
    moduleName := d.moduleName
    fields := d.kept.map (·.derive d.schemaName) }

def hasReservedName (d : Declaration) : Bool :=
  reservedWords.contains d.moduleName || d.derived.fields.any (reservedWords.contains ·.variant)

def derive (d : Declaration) : Derivation :=
  if d.isGeneric then .errors [.generic]
  else
    match d.kind with
    | .enumeration | .union => .errors [.notStruct]
    | .tupleStruct | .unitStruct => .errors [.unnamedFields]
    | .namedStruct =>
      if !d.namesLegal then .illegalName
      else if d.fieldErrors ≠ [] then .errors d.fieldErrors
      else if d.hasReservedName then .reservedName
      else .schema d.derived

end Declaration

end ListQuery
