/-!
# Shortest decimals

The decimal with the fewest digits inside an interval around a positive
fraction, and the nearest of those.
-/

namespace ListQuery

/-- The interval from `(value - below) / unit` to `(value + above) / unit`
around the fraction `value / unit`, with or without its two ends. -/
structure Interval where
  value : Nat
  below : Nat
  above : Nat
  unit : Nat
  closed : Bool
  deriving DecidableEq, Repr

namespace Interval

structure Neighbours where
  under : Nat
  atUnder : Bool
  atOver : Bool
  /-- Whether the point over the value is at least as near as the one under it. -/
  overNearer : Bool

def neighbours (i : Interval) (power : Int) : Neighbours :=
  let (factor, step) :=
    if 0 ≤ power then (1, i.unit * Nat.pow 10 power.toNat) else (Nat.pow 10 (-power).toNat, i.unit)
  let under := i.value * factor / step
  let rest := i.value * factor % step
  let gap := step - rest
  { under
    atUnder := rest < i.below * factor || (i.closed && rest == i.below * factor)
    atOver := gap < i.above * factor || (i.closed && gap == i.above * factor)
    overNearer := gap ≤ rest }

/-- The neighbour that stands for the value, if one of them lies in the
interval: the nearer if both do, and the one over the value on a tie. -/
def pick (n : Neighbours) : Option Nat :=
  if n.atUnder && !(n.atOver && n.overNearer) then some n.under
  else if n.atOver then some (n.under + 1)
  else none

/-- Tries the grids `10^power`, `10^(power - 1)`, … and yields the multiple
and the power of the first that has a point in the interval. -/
def search (i : Interval) : Nat → Int → Nat × Int
  | 0, power => ((i.neighbours power).under, power)
  | tries + 1, power =>
    match pick (i.neighbours power) with
    | some digits => (digits, power)
    | none => i.search tries (power - 1)

def startPower (i : Interval) : Int :=
  if i.unit ≤ i.value then (Nat.toDigits 10 (i.value / i.unit)).length
  else 1 - ((Nat.toDigits 10 (i.unit / i.value)).length : Int)

/-- The multiple and the power of ten of the shortest decimal. No grid finer
than `10^(-places)` is tried, the value being a multiple of that. -/
def shortest (i : Interval) (places : Nat) : Nat × Int :=
  i.search (i.startPower + places).toNat i.startPower

end Interval

end ListQuery
