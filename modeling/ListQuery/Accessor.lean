import ListQuery.Schema
import ListQuery.Text.Span
import ListQuery.Text.Cut
import ListQuery.Text.Identifier

/-!
# Accessors

Expressions that read one member: `title`, `p.title`, and either of them in a
closure `|p| …` or `p => …` and before one cast `… as t`.
-/

namespace ListQuery

structure InvalidField where
  expression : String
  deriving DecidableEq, Repr

def InvalidField.message (invalid : InvalidField) : String :=
  "invalid field expression: " ++ invalid.expression

namespace Accessor

def identifier? (cs : List Char) : Option (List Char) :=
  if Text.isAsciiIdentifier (Text.trim cs) then some (Text.trim cs) else none

/-- What is left of an expression when the closure around it is taken off;
nothing if its parameter is no identifier. -/
def openClosure (cs : List Char) : Option (List Char) :=
  match cs with
  | '|' :: rest => do
    let (parameter, body) ← Text.cut '|' rest
    let _ ← identifier? parameter
    return Text.trim body
  | _ =>
    match Text.cutWord ['=', '>'] cs with
    | some (parameter, body) => do
      let _ ← identifier? parameter
      return Text.trim body
    | none => some cs

def dropCast (cs : List Char) : Option (List Char) :=
  match Text.cutWord [' ', 'a', 's', ' '] cs with
  | some (inner, type) => do
    let _ ← identifier? type
    return Text.trim inner
  | none => some cs

def readMember (cs : List Char) : Option (List Char) :=
  match Text.cut '.' cs with
  | some (receiver, member) => do
    let _ ← identifier? receiver
    identifier? member
  | none => if Text.isAsciiIdentifier cs then some cs else none

def member? (cs : List Char) : Option (List Char) := do
  let body ← openClosure (Text.trim cs)
  let read ← dropCast body
  readMember read

end Accessor

/-- Whether two texts agree up to the case of ASCII letters. -/
def sameName (a b : List Char) : Bool :=
  a.map Char.toLower == b.map Char.toLower

/-- The first declared field whose name or member the expression reads. -/
def Schema.resolve {F : Type} (S : Schema F) (expression : String) : Except InvalidField F :=
  let found := do
    let member ← Accessor.member? expression.toList
    S.fields.find? fun f => sameName (S.name f).toList member || sameName (S.member f).toList member
  match found with
  | some f => .ok f
  | none => .error ⟨expression⟩

end ListQuery
