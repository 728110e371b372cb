/-!
# The proleptic Gregorian calendar

Days are counted from 1970-01-01. Years are taken to begin in March, so that
the leap day is the last of its year, and are grouped in eras of 400 years.
-/

namespace ListQuery

structure Date where
  year : Int
  month : Nat
  day : Nat
  deriving DecidableEq, Repr

namespace Date

def daysPerEra : Nat := 146097

/-- Days from 0000-03-01 to 1970-01-01. -/
def epochShift : Int := 719468

def daysBeforeMonth (month : Nat) : Nat :=
  (153 * month + 2) / 5

def daysBeforeYear (yearOfEra : Nat) : Nat :=
  365 * yearOfEra + yearOfEra / 4 - yearOfEra / 100

def toDays (d : Date) : Int :=
  let year := if d.month ≤ 2 then d.year - 1 else d.year
  let month := (d.month + 9) % 12
  let yearOfEra := (year % 400).toNat
  let dayOfEra := daysBeforeYear yearOfEra + daysBeforeMonth month + d.day - 1
  year / 400 * daysPerEra + dayOfEra - epochShift

def ofDays (days : Int) : Date :=
  let shifted := days + epochShift
  let dayOfEra := (shifted % daysPerEra).toNat
  let yearOfEra := (dayOfEra - dayOfEra / 1460 + dayOfEra / 36524 - dayOfEra / 146096) / 365
  let dayOfYear := dayOfEra - daysBeforeYear yearOfEra
  let month := (5 * dayOfYear + 2) / 153
  let day := dayOfYear - daysBeforeMonth month + 1
  let year := shifted / daysPerEra * 400 + yearOfEra
  if month < 10 then ⟨year, month + 3, day⟩ else ⟨year + 1, month - 9, day⟩

def weekday (days : Int) : Nat :=
  ((days + 4) % 7).toNat

end Date

end ListQuery
