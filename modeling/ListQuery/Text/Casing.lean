import ListQuery.Text.CaseIgnorable
import ListQuery.Text.CasingTable

/-!
# Letter case

Whether a character is a capital or a small letter, and the texts that
capitals and small letters become.
-/

namespace ListQuery.Text

def isUppercase (c : Char) : Bool :=
  if c.toNat < 128 then c.isUpper else inStrides uppercaseStrides c.toNat

def isLowercase (c : Char) : Bool :=
  if c.toNat < 128 then c.isLower else inStrides lowercaseStrides c.toNat

def isCased (c : Char) : Bool :=
  isUppercase c || isLowercase c || inSpans titlecaseSpans c.toNat

/-- The characters a code point becomes: an expansion if it has one, else the
single character its run maps it to, else itself. -/
def mapCase (expansions : List (Nat × List Nat)) (shifts : List Shift) (c : Char) : List Char :=
  match expansions.lookup c.toNat with
  | some expansion => expansion.map Char.ofNat
  | none => [((shifts.findSome? (·.image? c.toNat)).map Char.ofNat).getD c]

def lowerChar (c : Char) : List Char :=
  if c.toNat < 128 then [c.toLower] else mapCase lowerExpansions lowerShifts c

def upperChar (c : Char) : List Char :=
  if c.toNat < 128 then [c.toUpper] else mapCase upperExpansions upperShifts c

/-- Whether a cased letter is the first character that casing does not look past. -/
def meetsCased (cs : List Char) : Bool :=
  match cs.dropWhile isCaseIgnorable with
  | [] => false
  | c :: _ => isCased c

/-- The small letters of a text, `before` being the characters in front of it
in reverse. A capital sigma that ends a word becomes the final form. -/
def lowerFrom (before : List Char) : List Char → List Char
  | [] => []
  | c :: rest =>
    let small :=
      if c = 'Σ' then [if meetsCased before && !meetsCased rest then 'ς' else 'σ']
      else lowerChar c
    small ++ lowerFrom (c :: before) rest

def lower (cs : List Char) : List Char :=
  lowerFrom [] cs

def capitalizeFirst : List Char → List Char
  | [] => []
  | c :: rest => upperChar c ++ rest

end ListQuery.Text
