/-!
# Numbers in decimal digits

Integers written out, digits with a point at a given scale, and numbers of 32
bits read back, with the first fault of a text that is none.
-/

namespace ListQuery

-- ---------------------------------------------------------------------------
-- Writing
-- ---------------------------------------------------------------------------

def natChars (n : Nat) : List Char :=
  Nat.toDigits 10 n

def intChars (n : Int) : List Char :=
  if n < 0 then '-' :: natChars n.natAbs else natChars n.natAbs

def zeros (count : Nat) : List Char :=
  List.replicate count '0'

def padded (width n : Nat) : List Char :=
  zeros (width - (natChars n).length) ++ natChars n

/-- The number `digits · 10^(-scale)` without an exponent. All digits are
kept, so zeros at the end are too. -/
def positional (digits : List Char) (scale : Int) : List Char :=
  if scale ≤ 0 then digits ++ zeros (-scale).toNat
  else if scale < digits.length then
    digits.take (digits.length - scale.toNat) ++ '.' :: digits.drop (digits.length - scale.toNat)
  else '0' :: '.' :: (zeros (scale.toNat - digits.length) ++ digits)

theorem mem_zeros {count : Nat} {c : Char} (h : c ∈ zeros count) : c = '0' :=
  List.eq_of_mem_replicate h

theorem mem_positional {digits : List Char} {scale : Int} {c : Char}
    (h : c ∈ positional digits scale) : c ∈ digits ∨ c = '0' ∨ c = '.' := by
  unfold positional at h
  split at h
  · rcases List.mem_append.mp h with h | h
    · exact .inl h
    · exact .inr (.inl (mem_zeros h))
  · split at h
    · rcases List.mem_append.mp h with h | h
      · exact .inl (List.mem_of_mem_take h)
      · rcases List.mem_cons.mp h with h | h
        · exact .inr (.inr h)
        · exact .inl (List.mem_of_mem_drop h)
    · simp only [List.mem_cons, List.mem_append] at h
      rcases h with h | h | h | h
      · exact .inr (.inl h)
      · exact .inr (.inr h)
      · exact .inr (.inl (mem_zeros h))
      · exact .inl h

-- ---------------------------------------------------------------------------
-- Reading
-- ---------------------------------------------------------------------------

namespace Unsigned

inductive Fault where
  | empty
  | invalidDigit
  | tooLarge
  deriving DecidableEq, Repr

def Fault.message : Fault → String
  | .empty => "cannot parse integer from empty string"
  | .invalidDigit => "invalid digit found in string"
  | .tooLarge => "number too large to fit in target type"

def readDigits (acc : Nat) : List Char → Except Fault Nat
  | [] => .ok acc
  | c :: rest =>
    if c.isDigit then
      let next := 10 * acc + (c.toNat - 48)
      if next < UInt32.size then readDigits next rest else .error .tooLarge
    else .error .invalidDigit

/-- A number in decimal digits, behind one `+` or none. -/
def read : List Char → Except Fault UInt32
  | [] => .error .empty
  | ['+'] => .error .invalidDigit
  | '+' :: digits => (readDigits 0 digits).map UInt32.ofNat
  | digits => (readDigits 0 digits).map UInt32.ofNat

end Unsigned

end ListQuery
