import ListQuery.Number.Digits
import ListQuery.Time.Calendar

/-!
# Instants

Points in time as seconds and nanoseconds since 1970-01-01T00:00:00Z, and
their text to the millisecond.
-/

namespace ListQuery

/-- A leap second has the seconds of the one before it and `10^9` nanoseconds more. -/
structure Instant where
  seconds : Int
  nanos : Nat
  deriving DecidableEq, Repr

namespace Instant

def secondsPerDay : Nat := 86400

def date (i : Instant) : Date :=
  Date.ofDays (i.seconds / secondsPerDay)

def secondOfDay (i : Instant) : Nat :=
  (i.seconds % secondsPerDay).toNat

def isLeap (i : Instant) : Bool :=
  1000000000 ≤ i.nanos

def second (i : Instant) : Nat :=
  i.secondOfDay % 60 + (if i.isLeap then 1 else 0)

def subsecond (i : Instant) : Nat :=
  if i.isLeap then i.nanos - 1000000000 else i.nanos

/-- Four digits up to the year 9999, and a sign for the years outside. -/
def yearText (year : Int) : List Char :=
  if year < 0 then '-' :: padded 4 year.natAbs
  else if year ≤ 9999 then padded 4 year.natAbs
  else '+' :: natChars year.natAbs

def dateText (d : Date) : List Char :=
  yearText d.year ++ '-' :: (padded 2 d.month ++ '-' :: padded 2 d.day)

def clockText (i : Instant) : List Char :=
  padded 2 (i.secondOfDay / 3600) ++ ':' :: (padded 2 (i.secondOfDay / 60 % 60) ++ ':' :: padded 2 i.second)

def text (i : Instant) : List Char :=
  dateText i.date ++ 'T' :: (clockText i ++ '.' :: (padded 3 (i.subsecond / 1000000) ++ ['Z']))

/-- The text in a diagnostic: no decimal places, three, six or nine, as many
as the nanoseconds need. -/
def describe (i : Instant) : List Char :=
  let places :=
    if i.subsecond = 0 then []
    else if i.subsecond % 1000000 = 0 then '.' :: padded 3 (i.subsecond / 1000000)
    else if i.subsecond % 1000 = 0 then '.' :: padded 6 (i.subsecond / 1000)
    else '.' :: padded 9 i.subsecond
  dateText i.date ++ 'T' :: (clockText i ++ (places ++ ['Z']))

end Instant

end ListQuery
