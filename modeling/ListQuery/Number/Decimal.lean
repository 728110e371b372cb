import ListQuery.Number.Digits

/-!
# Decimal numbers

Numbers `unscaled · 10^(-scale)` of any size, and their text.
-/

namespace ListQuery

structure Decimal where
  unscaled : Int
  scale : Int
  deriving DecidableEq, Repr

namespace Decimal

def scientific (digits : List Char) (scale : Int) : List Char :=
  let exponent := intChars (digits.length - scale - 1)
  match digits with
  | [] => []
  | [digit] => digit :: 'E' :: exponent
  | digit :: rest => digit :: '.' :: (rest ++ 'E' :: exponent)

/-- The text of a magnitude. More than five zeros behind the point are left
to an exponent, and so are more than fifteen at the end. -/
def magnitude (digits : List Char) (scale : Int) : List Char :=
  if scale - digits.length > 5 then scientific digits scale
  else if scale < -15 then digits ++ 'e' :: '+' :: intChars (-scale)
  else positional digits scale

/-- Zero has one text whatever its scale; no other number loses a digit. -/
def text (d : Decimal) : List Char :=
  if d.unscaled = 0 then ['0']
  else
    let unsigned := magnitude (natChars d.unscaled.natAbs) d.scale
    if d.unscaled < 0 then '-' :: unsigned else unsigned

/-- The 64-bit words of a number, the lowest first; zero has none. -/
def words (n : Nat) : List Nat :=
  if n = 0 then [] else n % Nat.pow 2 64 :: words (n / Nat.pow 2 64)
termination_by n
decreasing_by exact Nat.div_lt_self (by omega) (by decide)

def describe (d : Decimal) : String :=
  let sign := if d.unscaled = 0 then "NoSign" else if d.unscaled < 0 then "Minus" else "Plus"
  "BigDecimal(sign=" ++ sign ++ ", scale=" ++ String.ofList (intChars d.scale) ++ ", digits=[" ++
    ", ".intercalate ((words d.unscaled.natAbs).map Nat.repr) ++ "])"

end Decimal

end ListQuery
