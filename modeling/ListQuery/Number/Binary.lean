import ListQuery.Number.Digits
import ListQuery.Number.Shortest

/-!
# Binary floating point

Numbers in the interchange formats of 32 and 64 bits, and their text in the
fewest digits that read back as the same number.
-/

namespace ListQuery

/-- An interchange format: one bit of sign, then exponent, then fraction. -/
structure BinaryFormat where
  exponentBits : Nat
  fractionBits : Nat

namespace BinaryFormat

def single : BinaryFormat := ⟨8, 23⟩

def double : BinaryFormat := ⟨11, 52⟩

def bias (f : BinaryFormat) : Nat :=
  Nat.pow 2 (f.exponentBits - 1) - 1

end BinaryFormat

/-- What a bit pattern stands for; a finite number is `mantissa · 2^exponent`. -/
inductive Binary where
  | notANumber
  | infinite (negative : Bool)
  /-- `narrow` tells that the numbers below lie twice as dense. -/
  | finite (negative : Bool) (mantissa : Nat) (exponent : Int) (narrow : Bool)
  deriving DecidableEq, Repr

namespace Binary

def ofBits (f : BinaryFormat) (bits : Nat) : Binary :=
  let fraction := bits % Nat.pow 2 f.fractionBits
  let exponent := bits / Nat.pow 2 f.fractionBits % Nat.pow 2 f.exponentBits
  let negative := bits / Nat.pow 2 (f.fractionBits + f.exponentBits) % 2 == 1
  if exponent = Nat.pow 2 f.exponentBits - 1 then
    if fraction = 0 then .infinite negative else .notANumber
  else if exponent = 0 then
    .finite negative fraction (1 - f.bias - f.fractionBits : Int) false
  else
    .finite negative (fraction + Nat.pow 2 f.fractionBits)
      ((exponent : Int) - f.bias - f.fractionBits) (fraction == 0)

/-- The reals that round to `mantissa · 2^exponent`, in quarters of the last
place; the ends round to it if the mantissa is even. -/
def interval (mantissa : Nat) (exponent : Int) (narrow : Bool) : Interval :=
  let scale := Nat.pow 2 (exponent - 2).toNat
  { value := 4 * mantissa * scale
    below := (if narrow then 1 else 2) * scale
    above := 2 * scale
    unit := Nat.pow 2 (2 - exponent).toNat
    closed := mantissa % 2 == 0 }

def decimal (mantissa : Nat) (exponent : Int) (narrow : Bool) : Nat × Int :=
  if mantissa = 0 then (0, 0)
  else (interval mantissa exponent narrow).shortest (2 - exponent).toNat

def signed (negative : Bool) (unsigned : List Char) : List Char :=
  if negative then '-' :: unsigned else unsigned

/-- The shortest decimal without an exponent; whole numbers have no point. -/
def text : Binary → List Char
  | notANumber => "NaN".toList
  | infinite negative => signed negative "inf".toList
  | finite negative mantissa exponent narrow =>
    let (digits, power) := decimal mantissa exponent narrow
    signed negative (positional (natChars digits) (-power))

/-- The text in a diagnostic: whole numbers have a decimal place, and numbers
from `10^16` on and below `10^(-4)` an exponent. -/
def describe : Binary → List Char
  | finite negative mantissa exponent narrow =>
    let (digits, power) := decimal mantissa exponent narrow
    let chars := natChars digits
    let leading : Int := chars.length - 1 + power
    signed negative <|
      if mantissa ≠ 0 ∧ (leading < -4 ∨ 16 ≤ leading) then
        positional chars (chars.length - 1) ++ 'e' :: intChars leading
      else if 0 ≤ power then positional chars (-power) ++ ['.', '0']
      else positional chars (-power)
  | other => other.text

end Binary

end ListQuery
