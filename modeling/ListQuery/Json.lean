/-!
# JSON data

JSON values as trees, and the readings of them that options and records share.
-/

namespace ListQuery

inductive Json where
  | null
  | bool (b : Bool)
  /-- The number `mantissa · 10^(-places)`; integers are written with no places. -/
  | number (mantissa : Int) (places : Nat)
  | string (s : String)
  | array (items : List Json)
  | object (members : List (String × Json))
  deriving Inhabited

namespace Json

def natural (n : UInt32) : Json :=
  .number n.toNat 0

/-- An integer of 32 bits without a sign. A number with decimal places is
none, not even where they are zero. -/
def toUInt32? : Json → Option UInt32
  | .number (.ofNat n) 0 => if n < UInt32.size then some (UInt32.ofNat n) else none
  | _ => none

def toString? : Json → Option String
  | .string s => some s
  | _ => none

/-- The value of a key, which may be missing but must not stand twice. -/
def single? (key : String) (members : List (String × Json)) : Option (Option Json) :=
  match members.filter (·.1 == key) with
  | [] => some none
  | [(_, json)] => some (some json)
  | _ => none

def withDefault {α : Type} (read : Json → Option α) (default : α) : Option Json → Option α
  | none => some default
  | some json => read json

def nullable {α : Type} (read : Json → Option α) : Option Json → Option (Option α)
  | none => some none
  | some .null => some none
  | some json => (read json).map some

/-- Whether the value names a choice that carries nothing: by its name alone,
or as an object with the name for its one key and null behind it. -/
def isChoice (name : String) : Json → Bool
  | .string s => s == name
  | .object [(key, .null)] => key == name
  | _ => false

theorem toUInt32?_natural (n : UInt32) : (natural n).toUInt32? = some n := by
  have h : n.toNat < UInt32.size := n.toNat_lt_size
  change (if n.toNat < UInt32.size then some (UInt32.ofNat n.toNat) else none) = some n
  rw [if_pos h, UInt32.ofNat_toNat]

end Json

end ListQuery
