import ListQuery.Text.Percent

/-!
# UUIDs

Identifiers of 128 bits in hexadecimal.
-/

namespace ListQuery

structure Uuid where
  bits : BitVec 128
  deriving DecidableEq, Repr

namespace Uuid

def hexDigits : Nat → Nat → List Char
  | 0, _ => []
  | width + 1, n => hexDigits width (n / 16) ++ [Nat.digitChar (n % 16)]

def text (u : Uuid) : List Char :=
  let n := u.bits.toNat
  hexDigits 8 (n / Nat.pow 16 24) ++ '-' :: (hexDigits 4 (n / Nat.pow 16 20) ++
    '-' :: (hexDigits 4 (n / Nat.pow 16 16) ++
      '-' :: (hexDigits 4 (n / Nat.pow 16 12) ++ '-' :: hexDigits 12 n)))

def ofDigits (digits : List Char) : Option Uuid :=
  if digits.length = 32 then
    (digits.mapM Text.hexValue).map fun values =>
      ⟨BitVec.ofNat 128 (values.foldl (fun n digit => 16 * n + digit) 0)⟩
  else none

def ofGroups (cs : List Char) : Option Uuid :=
  let groups := [cs.take 8, (cs.drop 9).take 4, (cs.drop 14).take 4, (cs.drop 19).take 4, cs.drop 24]
  let hyphens := [8, 13, 18, 23].map (cs[·]?)
  if cs.length = 36 ∧ hyphens.all (· == some '-') then ofDigits groups.flatten else none

/-- Reads 32 digits, or five groups, alone, in braces or behind `urn:uuid:`,
letters in either case. -/
def ofText (cs : List Char) : Option Uuid :=
  match cs with
  | '\x7b' :: rest => if rest.getLast? = some '\x7d' then ofGroups rest.dropLast else none
  | _ =>
    match "urn:uuid:".toList.isPrefixOf? (cs.map Char.toLower) with
    | some rest => ofGroups rest
    | none => if cs.length = 32 then ofDigits cs else ofGroups cs

end Uuid

end ListQuery
