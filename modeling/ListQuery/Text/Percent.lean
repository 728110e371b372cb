import ListQuery.Text.Utf8

/-!
# Percent coding

A text as one opaque component of a query string: every octet of its UTF-8
form that is not a letter, a digit or one of `-_.~` becomes `%` and two
digits.
-/

namespace ListQuery.Text

def hexValue (c : Char) : Option Nat :=
  if '0' ≤ c ∧ c ≤ '9' then some (c.toNat - 48)
  else if 'A' ≤ c ∧ c ≤ 'F' then some (c.toNat - 55)
  else if 'a' ≤ c ∧ c ≤ 'f' then some (c.toNat - 87)
  else none

def upperHexDigit (d : Nat) : Char :=
  if d < 10 then Char.ofNat (48 + d) else Char.ofNat (55 + d)

theorem hexValue_upperHexDigit : ∀ d < 16, hexValue (upperHexDigit d) = some d := by
  decide

namespace Percent

def isUnreserved (b : UInt8) : Bool :=
  let n := b.toNat
  (48 ≤ n && n ≤ 57) || (65 ≤ n && n ≤ 90) || (97 ≤ n && n ≤ 122) ||
    n == 45 || n == 46 || n == 95 || n == 126

def encodeOctet (b : UInt8) : List Char :=
  if isUnreserved b then [Char.ofNat b.toNat]
  else ['%', upperHexDigit (b.toNat / 16), upperHexDigit (b.toNat % 16)]

def encode (cs : List Char) : List Char :=
  (Utf8.encode cs).flatMap encodeOctet

/-- The octets that a coded text stands for. A `%` without two digits behind
it stands for itself. -/
def octets : List Char → List UInt8
  | [] => []
  | '%' :: a :: b :: rest =>
    match hexValue a, hexValue b with
    | some high, some low => UInt8.ofNat (16 * high + low) :: octets rest
    | _, _ => 37 :: octets (a :: b :: rest)
  | c :: rest => String.utf8EncodeChar c ++ octets rest

def decode (cs : List Char) : Except Utf8.Fault (List Char) :=
  Utf8.decode (octets cs)

end Percent

end ListQuery.Text
