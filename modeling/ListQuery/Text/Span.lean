/-!
# Tables of code points

A property of characters is a list of inclusive spans. Properties and case
mappings of alternating letters are kept as strides, which take every
`step`-th code point. The blanks are the characters with the Unicode property
`White_Space`.
-/

namespace ListQuery.Text

/-- The code points `first, first + step, …` up to `last`. -/
structure Stride where
  first : Nat
  last : Nat
  step : Nat

def Stride.holds (s : Stride) (n : Nat) : Bool :=
  s.first ≤ n && n ≤ s.last && (n - s.first) % s.step == 0

def inSpans (spans : List (Nat × Nat)) (n : Nat) : Bool :=
  spans.any fun span => span.1 ≤ n && n ≤ span.2

def inStrides (strides : List Stride) (n : Nat) : Bool :=
  strides.any (·.holds n)

-- ---------------------------------------------------------------------------
-- Blanks
-- ---------------------------------------------------------------------------

def blankSpans : List (Nat × Nat) :=
  [(0x9, 0xd), (0x20, 0x20), (0x85, 0x85), (0xa0, 0xa0), (0x1680, 0x1680), (0x2000, 0x200a),
    (0x2028, 0x2029), (0x202f, 0x202f), (0x205f, 0x205f), (0x3000, 0x3000)]

def isBlank (c : Char) : Bool :=
  inSpans blankSpans c.toNat

def dropBlanksLeft (cs : List Char) : List Char :=
  cs.dropWhile isBlank

def dropBlanksRight (cs : List Char) : List Char :=
  (cs.reverse.dropWhile isBlank).reverse

def trim (cs : List Char) : List Char :=
  dropBlanksRight (dropBlanksLeft cs)

end ListQuery.Text
