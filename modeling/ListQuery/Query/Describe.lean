import ListQuery.Query.Step
import ListQuery.Text.Quoted

/-!
# Diagnostics

What a log shows of values, clauses, options and queries. It is for people, and
nothing reads it back.
-/

namespace ListQuery

def Value.describe (v : Value) : String :=
  let content :=
    match v with
    | null => none
    | single bits => some (String.ofList (ofSingle bits).describe)
    | double bits => some (String.ofList (ofDouble bits).describe)
    | decimal d => some d.describe
    | instant i => some (String.ofList i.describe)
    | text s => some (Text.quote s)
    | other => some other.format
  match content with
  | none => v.kind
  | some content => v.kind ++ "(" ++ content ++ ")"

def FieldCase.describe : FieldCase → String
  | pascal => "Pascal"
  | asDeclared => "AsDeclared"

def PagingPolicy.describe : PagingPolicy → String
  | leaveOut => "Omit"
  | fallback page pageSize =>
    "Fallback \x7b page: " ++ page.toNat.repr ++ ", page_size: " ++ pageSize.toNat.repr ++ " \x7d"

def Options.describe (o : Options) : String :=
  "SieveOptions \x7b field_case: " ++ o.fieldCase.describe ++ ", pagination: " ++ o.paging.describe ++ " \x7d"

section
variable {F : Type}

def Schema.describe (S : Schema F) (f : F) : String :=
  "FieldRef \x7b field: " ++ Text.quote (S.name f) ++ " \x7d"

def FieldClause.describe (S : Schema F) (clause : FieldClause F) : String :=
  "FilterClause \x7b field: " ++ Text.quote (S.name clause.field) ++ ", operator: " ++
    clause.operator.name ++ ", value: " ++ clause.value.describe ++ " \x7d"

end

namespace Query

def describeTexts (texts : List String) : String :=
  "[" ++ ", ".intercalate (texts.map Text.quote) ++ "]"

def describeNumber (number : Option UInt32) : String :=
  match number with
  | none => "None"
  | some n => "Some(" ++ n.toNat.repr ++ ")"

def describe (q : Query) : String :=
  "SieveQuery \x7b filters: " ++ describeTexts q.filters ++ ", sorts: " ++ describeTexts q.sorts ++
    ", page: " ++ describeNumber q.page ++ ", page_size: " ++ describeNumber q.pageSize ++
    ", options: " ++ q.options.describe ++ " \x7d"

end Query

end ListQuery
