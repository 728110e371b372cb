/-!
# UTF-8

Octets of a text, and the text of octets with the place and the length of
the first fault.
-/

namespace ListQuery.Text.Utf8

/-- The first fault of an octet sequence. `index` is the length of the valid
octets before it. An `invalid` one can be completed to no character, and its
length is that of its longest part that begins one, at least one octet; an
`incomplete` one ends with the text. -/
inductive Fault where
  | invalid (length index : Nat)
  | incomplete (index : Nat)
  deriving DecidableEq, Repr

def Fault.message : Fault → String
  | .invalid length index =>
    "invalid utf-8 sequence of " ++ length.repr ++ " bytes from index " ++ index.repr
  | .incomplete index => "incomplete utf-8 byte sequence from index " ++ index.repr

def encode (cs : List Char) : List UInt8 :=
  cs.flatMap String.utf8EncodeChar

def isTail (b : UInt8) : Bool :=
  0x80 ≤ b.toNat && b.toNat ≤ 0xbf

/-- Whether the octet may follow the first octet `a` of a character of three
or four. Four first octets narrow the range: overlong forms, surrogates and
numbers above `0x10ffff` are no characters. -/
def isSecond (a b : UInt8) : Bool :=
  isTail b &&
    match a.toNat with
    | 0xe0 => 0xa0 ≤ b.toNat
    | 0xed => b.toNat ≤ 0x9f
    | 0xf0 => 0x90 ≤ b.toNat
    | 0xf4 => b.toNat ≤ 0x8f
    | _ => true

def tailBits (b : UInt8) : Nat :=
  b.toNat % 0x40

def twoOctets (a b : UInt8) : Char :=
  Char.ofNat (a.toNat % 0x20 * 0x40 + tailBits b)

def threeOctets (a b c : UInt8) : Char :=
  Char.ofNat (a.toNat % 0x10 * 0x1000 + tailBits b * 0x40 + tailBits c)

def fourOctets (a b c d : UInt8) : Char :=
  Char.ofNat (a.toNat % 0x8 * 0x40000 + tailBits b * 0x1000 + tailBits c * 0x40 + tailBits d)

/-- The characters of the octets, which start `index` octets into the text. -/
def decodeFrom (index : Nat) : List UInt8 → Except Fault (List Char)
  | [] => .ok []
  | a :: rest =>
    if a.toNat < 0x80 then
      (decodeFrom (index + 1) rest).map (Char.ofNat a.toNat :: ·)
    else if 0xc2 ≤ a.toNat ∧ a.toNat ≤ 0xdf then
      match rest with
      | [] => .error (.incomplete index)
      | b :: rest =>
        if isTail b then (decodeFrom (index + 2) rest).map (twoOctets a b :: ·)
        else .error (.invalid 1 index)
    else if 0xe0 ≤ a.toNat ∧ a.toNat ≤ 0xef then
      match rest with
      | [] => .error (.incomplete index)
      | b :: rest =>
        if isSecond a b then
          match rest with
          | [] => .error (.incomplete index)
          | c :: rest =>
            if isTail c then (decodeFrom (index + 3) rest).map (threeOctets a b c :: ·)
            else .error (.invalid 2 index)
        else .error (.invalid 1 index)
    else if 0xf0 ≤ a.toNat ∧ a.toNat ≤ 0xf4 then
      match rest with
      | [] => .error (.incomplete index)
      | b :: rest =>
        if isSecond a b then
          match rest with
          | [] => .error (.incomplete index)
          | c :: rest =>
            if isTail c then
              match rest with
              | [] => .error (.incomplete index)
              | d :: rest =>
                if isTail d then (decodeFrom (index + 4) rest).map (fourOctets a b c d :: ·)
                else .error (.invalid 3 index)
            else .error (.invalid 2 index)
        else .error (.invalid 1 index)
    else .error (.invalid 1 index)

def decode (octets : List UInt8) : Except Fault (List Char) :=
  decodeFrom 0 octets

end ListQuery.Text.Utf8
