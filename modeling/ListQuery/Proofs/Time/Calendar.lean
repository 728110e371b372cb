import ListQuery.Time.Calendar
import Mathlib.Tactic.IntervalCases

/-!
# Laws of the calendar

Counting days and naming them are inverse to each other, and they keep the
order. The day that follows in the count is the one that follows in the
calendar of months and leap years.
-/

namespace ListQuery

attribute [ext] Date

namespace Date

/-- Every fourth year has a leap day, save the centuries that 400 does not divide. -/
def leapDay (year : Int) : Nat :=
  if year % 4 = 0 ∧ (year % 100 ≠ 0 ∨ year % 400 = 0) then 1 else 0

def monthLength (year : Int) (month : Nat) : Nat :=
  if month = 2 then 28 + leapDay year
  else if month = 4 ∨ month = 6 ∨ month = 9 ∨ month = 11 then 30
  else 31

structure Valid (d : Date) : Prop where
  month : 1 ≤ d.month ∧ d.month ≤ 12
  day : 1 ≤ d.day ∧ d.day ≤ monthLength d.year d.month

instance (d : Date) : Decidable d.Valid :=
  decidable_of_iff ((1 ≤ d.month ∧ d.month ≤ 12) ∧ 1 ≤ d.day ∧ d.day ≤ monthLength d.year d.month)
    ⟨fun ⟨hmonth, hday⟩ => ⟨hmonth, hday⟩, fun ⟨hmonth, hday⟩ => ⟨hmonth, hday⟩⟩

def Before (d e : Date) : Prop :=
  d.year < e.year ∨ d.year = e.year ∧ (d.month < e.month ∨ d.month = e.month ∧ d.day < e.day)

def nextMonth (d : Date) : Date :=
  if d.month < 12 then ⟨d.year, d.month + 1, 1⟩ else ⟨d.year + 1, 1, 1⟩

def next (d : Date) : Date :=
  if d.day < monthLength d.year d.month then { d with day := d.day + 1 } else d.nextMonth

-- ---------------------------------------------------------------------------
-- Years that begin in March
-- ---------------------------------------------------------------------------

/-- The year of a date if years begin in March. -/
def marchYear (d : Date) : Int :=
  if d.month ≤ 2 then d.year - 1 else d.year

def marchMonth (d : Date) : Nat :=
  (d.month + 9) % 12

/-- Days from 0000-03-01 to the first of March of a year. -/
def daysBeforeMarch (year : Int) : Int :=
  365 * year + year / 4 - year / 100 + year / 400

theorem daysBeforeMarch_eq (year : Int) :
    daysBeforeMarch year = year / 400 * daysPerEra + daysBeforeYear (year % 400).toNat := by
  simp only [daysBeforeMarch, daysBeforeYear, daysPerEra]
  omega

theorem toDays_eq {d : Date} (h : 1 ≤ d.day) :
    d.toDays = daysBeforeMarch d.marchYear + daysBeforeMonth d.marchMonth + d.day - 1 - epochShift := by
  have htoDays : d.toDays = d.marchYear / 400 * daysPerEra +
      (daysBeforeYear (d.marchYear % 400).toNat + daysBeforeMonth d.marchMonth + d.day - 1 : Nat) - epochShift := rfl
  rw [htoDays, daysBeforeMarch_eq]
  omega

theorem leapDay_le (year : Int) : leapDay year ≤ 1 := by
  unfold leapDay
  split <;> decide

theorem leapDay_emod (year : Int) : leapDay (year % 400) = leapDay year := by
  have hleap : ((year % 400) % 4 = 0 ∧ ((year % 400) % 100 ≠ 0 ∨ (year % 400) % 400 = 0)) ↔
      (year % 4 = 0 ∧ (year % 100 ≠ 0 ∨ year % 400 = 0)) := by omega
  unfold leapDay
  simp only [hleap]

theorem daysBeforeMarch_succ (year : Int) :
    daysBeforeMarch (year + 1) = daysBeforeMarch year + 365 + leapDay (year + 1) := by
  simp only [daysBeforeMarch, leapDay]
  split <;> omega

theorem daysBeforeMarch_le {year later : Int} (h : year < later) :
    daysBeforeMarch (year + 1) ≤ daysBeforeMarch later := by
  simp only [daysBeforeMarch]
  omega

theorem daysBeforeMonth_le {month later : Nat} (h : month ≤ later) :
    daysBeforeMonth month ≤ daysBeforeMonth later :=
  Nat.div_le_div_right (by omega)

/-- February is the last month of a year, and its end is that of the year. -/
theorem daysBeforeMonth_add_monthLength {d : Date} (h : 1 ≤ d.month ∧ d.month ≤ 12) :
    if d.month = 2 then daysBeforeMonth d.marchMonth + monthLength d.year d.month = 365 + leapDay d.year
    else daysBeforeMonth d.marchMonth + monthLength d.year d.month = daysBeforeMonth (d.marchMonth + 1) := by
  obtain ⟨year, month, day⟩ := d
  obtain ⟨hfirst, hlast⟩ := h
  simp only [marchMonth, monthLength, daysBeforeMonth] at *
  interval_cases month <;> simp
  omega

theorem lt_daysBeforeMarch_succ {d : Date} (h : d.Valid) :
    daysBeforeMarch d.marchYear + daysBeforeMonth d.marchMonth + d.day - 1 < daysBeforeMarch (d.marchYear + 1) := by
  have hlength := daysBeforeMonth_add_monthLength h.month
  have hday := h.day
  rw [daysBeforeMarch_succ]
  split at hlength
  · next hfebruary =>
    rw [marchYear, if_pos (by omega), Int.sub_add_cancel]
    omega
  · have hmonth : d.marchMonth + 1 ≤ 11 := by
      have := h.month
      simp only [marchMonth]
      omega
    have hyear : daysBeforeMonth 11 = 337 := rfl
    have := daysBeforeMonth_le hmonth
    omega

-- ---------------------------------------------------------------------------
-- The order of dates
-- ---------------------------------------------------------------------------

theorem Before.march {d e : Date} (hd : d.Valid) (he : e.Valid) (h : d.Before e) :
    d.marchYear < e.marchYear ∨ d.marchYear = e.marchYear ∧
      (d.marchMonth < e.marchMonth ∨ d.marchMonth = e.marchMonth ∧ d.day < e.day) := by
  have hmonth := hd.month
  have hmonth' := he.month
  simp only [Before, marchYear, marchMonth] at *
  split <;> split <;> omega

theorem toDays_lt_of_before {d e : Date} (hd : d.Valid) (he : e.Valid) (h : d.Before e) :
    d.toDays < e.toDays := by
  have hday := hd.day
  have hday' := he.day
  rw [toDays_eq hday.1, toDays_eq hday'.1]
  rcases h.march hd he with hyear | ⟨hyear, hmonth | ⟨hmonth, hlt⟩⟩
  · have hlast := lt_daysBeforeMarch_succ hd
    have hnext := daysBeforeMarch_le hyear
    omega
  · -- An earlier month of the same year is not February.
    have hlength := daysBeforeMonth_add_monthLength hd.month
    have hnext : daysBeforeMonth (d.marchMonth + 1) ≤ daysBeforeMonth e.marchMonth := daysBeforeMonth_le hmonth
    have hfebruary : d.month ≠ 2 := by
      intro hfebruary
      simp only [marchMonth, hfebruary] at hmonth
      omega
    rw [if_neg hfebruary] at hlength
    rw [hyear]
    omega
  · rw [hyear, hmonth]
    omega

theorem before_or_eq_or_before (d e : Date) : d.Before e ∨ d = e ∨ e.Before d := by
  obtain ⟨year, month, day⟩ := d
  obtain ⟨year', month', day'⟩ := e
  simp only [Before, Date.mk.injEq]
  omega

theorem toDays_injective {d e : Date} (hd : d.Valid) (he : e.Valid) (h : d.toDays = e.toDays) : d = e := by
  rcases before_or_eq_or_before d e with hlt | heq | hgt
  · exact absurd (toDays_lt_of_before hd he hlt) (by omega)
  · exact heq
  · exact absurd (toDays_lt_of_before he hd hgt) (by omega)

-- ---------------------------------------------------------------------------
-- Naming days
-- ---------------------------------------------------------------------------

def yearOfEra (dayOfEra : Nat) : Nat :=
  (dayOfEra - dayOfEra / 1460 + dayOfEra / 36524 - dayOfEra / 146096) / 365

/-- A day of an era, which has four centuries, by the 25 groups of four years of
a century. The last year of a group has a leap day, save that of the last group
of a century, save that of the last century. -/
structure EraDay where
  century : Nat
  group : Nat
  year : Nat
  day : Nat
  century_le : century ≤ 3
  group_le : group ≤ 24
  year_le : year ≤ 3
  day_le : day ≤ 365
  leap : day = 365 → year = 3 ∧ (group = 24 → century = 3)

def EraDay.count (e : EraDay) : Nat :=
  36524 * e.century + 1461 * e.group + 365 * e.year + e.day

theorem exists_eraDay {dayOfEra : Nat} (h : dayOfEra < daysPerEra) : ∃ e : EraDay, e.count = dayOfEra := by
  simp only [daysPerEra] at h
  let century := min (dayOfEra / 36524) 3
  let dayOfCentury := dayOfEra - 36524 * century
  let year := min (dayOfCentury % 1461 / 365) 3
  let e : EraDay :=
    { century
      group := dayOfCentury / 1461
      year
      day := dayOfCentury % 1461 - 365 * year
      century_le := by omega
      group_le := by omega
      year_le := by omega
      day_le := by omega
      leap := by omega }
  refine ⟨e, ?_⟩
  simp only [EraDay.count, e]
  omega

theorem EraDay.yearOfEra_count (e : EraDay) : yearOfEra e.count = 100 * e.century + 4 * e.group + e.year := by
  obtain ⟨century, group, year, day, hcentury, hgroup, hyear, hday, hleap⟩ := e
  simp only [yearOfEra, count]
  by_cases hlast : day = 365 ∧ group = 24
  · obtain ⟨rfl, rfl⟩ := hlast
    obtain ⟨rfl, hlast⟩ := hleap rfl
    obtain rfl := hlast rfl
    rfl
  · -- The divisors miss the day by the groups and years before it, one day at most.
    generalize hcount : 36524 * century + 1461 * group + 365 * year + day = count
    have hera : count / 146096 = 0 := by omega
    have hcenturies : count / 36524 = century := by omega
    have hgroups : count / 1460 =
        25 * century + group + (24 * century + group + 365 * year + day) / 1460 := by omega
    have hfull : day = 365 → (24 * century + group + 365 * year + day) / 1460 = 1 := by omega
    have hmissed : (24 * century + group + 365 * year + day) / 1460 = 0 ∨
        (24 * century + group + 365 * year + day) / 1460 = 1 ∧ year = 3 ∧ 1 ≤ day := by omega
    rw [hera, hcenturies, hgroups]
    omega

theorem yearOfEra_spec {dayOfEra : Nat} (h : dayOfEra < daysPerEra) :
    yearOfEra dayOfEra < 400 ∧ daysBeforeYear (yearOfEra dayOfEra) ≤ dayOfEra ∧
      dayOfEra < daysBeforeYear (yearOfEra dayOfEra) + 365 + leapDay (yearOfEra dayOfEra + 1) := by
  obtain ⟨e, rfl⟩ := exists_eraDay h
  rw [e.yearOfEra_count]
  obtain ⟨century, group, year, day, hcentury, hgroup, hfour, hday, hleap⟩ := e
  simp only [EraDay.count, daysBeforeYear, leapDay]
  refine ⟨by omega, by omega, ?_⟩
  split <;> omega

def ofMarch (year : Int) (month day : Nat) : Date :=
  if month < 10 then ⟨year, month + 3, day⟩ else ⟨year + 1, month - 9, day⟩

section
variable {month : Nat} (h : month ≤ 11) (year : Int) (day : Nat)
include h

theorem month_ofMarch : 1 ≤ (ofMarch year month day).month ∧ (ofMarch year month day).month ≤ 12 := by
  unfold ofMarch
  split <;> simp only <;> omega

theorem marchYear_ofMarch : (ofMarch year month day).marchYear = year := by
  unfold ofMarch marchYear
  split
  · exact if_neg (by simp)
  · rw [if_pos (by simp only; omega), Int.add_sub_cancel]

theorem marchMonth_ofMarch : (ofMarch year month day).marchMonth = month := by
  unfold ofMarch marchMonth
  split <;> simp only <;> omega

end

theorem day_ofMarch (year : Int) (month day : Nat) : (ofMarch year month day).day = day := by
  unfold ofMarch
  split <;> rfl

theorem ofDays_spec (days : Int) :
    ∃ (year : Int) (month day : Nat), ofDays days = ofMarch year month day ∧ month ≤ 11 ∧ 1 ≤ day ∧
      days = daysBeforeMarch year + daysBeforeMonth month + day - 1 - epochShift ∧
      daysBeforeMonth month + day ≤ daysBeforeMonth (month + 1) ∧
      daysBeforeMonth month + day ≤ 365 + leapDay (year + 1) := by
  let shifted := days + epochShift
  let dayOfEra := (shifted % daysPerEra).toNat
  let dayOfYear := dayOfEra - daysBeforeYear (yearOfEra dayOfEra)
  let month := (5 * dayOfYear + 2) / 153
  have hera : dayOfEra < daysPerEra := by
    simp only [dayOfEra, daysPerEra]
    omega
  obtain ⟨hyear, hfirst, hlast⟩ := yearOfEra_spec hera
  let year := shifted / daysPerEra * 400 + yearOfEra dayOfEra
  have hmarch : daysBeforeMarch year = shifted / daysPerEra * daysPerEra + daysBeforeYear (yearOfEra dayOfEra) := by
    rw [daysBeforeMarch_eq]
    have hdiv : year / 400 = shifted / daysPerEra := by omega
    have hmod : (year % 400).toNat = yearOfEra dayOfEra := by omega
    rw [hdiv, hmod]
  have hleap : leapDay (year + 1) = leapDay (yearOfEra dayOfEra + 1) := by
    have hmod : (year + 1) % 400 = (yearOfEra dayOfEra + 1 : Int) % 400 := by omega
    rw [← leapDay_emod, hmod, leapDay_emod]
  have hleap' := leapDay_le (year + 1)
  have hshifted : shifted = shifted / daysPerEra * daysPerEra + dayOfEra := by
    simp only [dayOfEra, daysPerEra]
    omega
  have hday : dayOfYear < 365 + leapDay (year + 1) := by omega
  have hmonth : daysBeforeMonth month ≤ dayOfYear ∧ dayOfYear + 1 ≤ daysBeforeMonth (month + 1) := by
    simp only [daysBeforeMonth]
    omega
  refine ⟨year, month, dayOfYear - daysBeforeMonth month + 1, rfl, by omega, by omega, ?_, by omega, by omega⟩
  rw [hmarch]
  omega

theorem toDays_ofDays (days : Int) : (ofDays days).toDays = days := by
  obtain ⟨year, month, day, hdate, hmonth, hday, hdays, -, -⟩ := ofDays_spec days
  rw [hdate, toDays_eq ((day_ofMarch year month day).symm ▸ hday), marchYear_ofMarch hmonth,
    marchMonth_ofMarch hmonth, day_ofMarch]
  exact hdays.symm

theorem valid_ofDays (days : Int) : (ofDays days).Valid := by
  obtain ⟨year, month, day, hdate, hmonth, hday, -, hmonthEnd, hyearEnd⟩ := ofDays_spec days
  have hlength := daysBeforeMonth_add_monthLength (month_ofMarch hmonth year day)
  rw [hdate]
  refine ⟨month_ofMarch hmonth year day, (day_ofMarch year month day).symm ▸ hday, ?_⟩
  rw [day_ofMarch]
  rw [marchMonth_ofMarch hmonth] at hlength
  split at hlength
  · next hfebruary =>
    have hyear : (ofMarch year month day).year = year + 1 := by
      have hmarch := marchYear_ofMarch hmonth year day
      rw [marchYear, if_pos (by omega)] at hmarch
      omega
    rw [hyear] at hlength ⊢
    omega
  · omega

theorem ofDays_toDays {d : Date} (h : d.Valid) : ofDays d.toDays = d :=
  toDays_injective (valid_ofDays _) h (toDays_ofDays _)

theorem ofDays_before_iff {a b : Int} : (ofDays a).Before (ofDays b) ↔ a < b := by
  have hlt {a b : Int} (h : (ofDays a).Before (ofDays b)) : a < b := by
    simpa only [toDays_ofDays] using toDays_lt_of_before (valid_ofDays a) (valid_ofDays b) h
  refine ⟨hlt, fun h => ?_⟩
  rcases before_or_eq_or_before (ofDays a) (ofDays b) with hbefore | heq | hbefore
  · exact hbefore
  · have hdays := congrArg toDays heq
    rw [toDays_ofDays, toDays_ofDays] at hdays
    omega
  · have hafter := hlt hbefore
    omega

-- ---------------------------------------------------------------------------
-- The next day
-- ---------------------------------------------------------------------------

theorem monthLength_pos (year : Int) (month : Nat) : 1 ≤ monthLength year month := by
  unfold monthLength
  split
  · omega
  · split <;> decide

theorem day_nextMonth (d : Date) : d.nextMonth.day = 1 := by
  unfold nextMonth
  split <;> rfl

theorem valid_next {d : Date} (h : d.Valid) : d.next.Valid := by
  obtain ⟨⟨hfirst, hlast⟩, hday, -⟩ := h
  unfold next nextMonth
  split
  · next hlater => exact ⟨⟨hfirst, hlast⟩, Nat.le_succ_of_le hday, hlater⟩
  split
  · next hmonth => exact ⟨⟨Nat.le_succ_of_le hfirst, hmonth⟩, Nat.le_refl 1, monthLength_pos _ _⟩
  · exact ⟨⟨Nat.le_refl 1, Nat.le_add_left 1 11⟩, Nat.le_refl 1, monthLength_pos _ _⟩

/-- February is followed by another year, each other month by a month of its own. -/
theorem march_nextMonth {d : Date} (h : 1 ≤ d.month ∧ d.month ≤ 12) :
    if d.month = 2 then d.nextMonth.marchYear = d.marchYear + 1 ∧ d.nextMonth.marchMonth = 0
    else d.nextMonth.marchYear = d.marchYear ∧ d.nextMonth.marchMonth = d.marchMonth + 1 := by
  obtain ⟨year, month, day⟩ := d
  simp only [nextMonth, marchYear, marchMonth] at *
  split <;> split <;> simp only <;> repeat' split <;> omega

theorem toDays_next {d : Date} (h : d.Valid) : d.next.toDays = d.toDays + 1 := by
  rw [toDays_eq (valid_next h).day.1, toDays_eq h.day.1]
  obtain ⟨hmonth, hday, hlast⟩ := h
  have hlength := daysBeforeMonth_add_monthLength hmonth
  have hnext := march_nextMonth hmonth
  unfold next
  split
  · change daysBeforeMarch d.marchYear + daysBeforeMonth d.marchMonth + (d.day + 1 : Nat) - 1 - epochShift = _
    omega
  split at hlength
  · next hfebruary =>
    rw [if_pos hfebruary] at hnext
    have hyear : d.marchYear + 1 = d.year := by
      rw [marchYear, if_pos (by omega), Int.sub_add_cancel]
    have hsucc := daysBeforeMarch_succ d.marchYear
    have hzero : daysBeforeMonth 0 = 0 := rfl
    rw [hyear] at hsucc
    rw [hnext.1, hnext.2, day_nextMonth, hzero, hyear]
    omega
  · next hfebruary =>
    rw [if_neg hfebruary] at hnext
    rw [hnext.1, hnext.2, day_nextMonth]
    omega

/-- From day to day the names are those of the Gregorian calendar, which is
taken to hold at all times before and after 1970-01-01. -/
theorem ofDays_succ (days : Int) : ofDays (days + 1) = (ofDays days).next := by
  have hvalid := valid_ofDays days
  refine toDays_injective (valid_ofDays _) (valid_next hvalid) ?_
  rw [toDays_ofDays, toDays_next hvalid, toDays_ofDays]

example : ofDays 0 = ⟨1970, 1, 1⟩ := by decide

end Date

end ListQuery
