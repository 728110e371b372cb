import ListQuery.Proofs.Number.Padded
import ListQuery.Proofs.Text.Order
import ListQuery.Proofs.Time.Calendar
import ListQuery.Proofs.Value

/-!
# Laws of instants

The text of an instant tells it to the millisecond, whatever offset it was
given with. In years of four digits the texts stand in the order of time.
-/

namespace ListQuery

namespace Instant

/-- Only the last second of a minute can be a leap second. -/
def Valid (i : Instant) : Prop :=
  i.nanos < 1000000000 ∨ i.nanos < 2000000000 ∧ i.seconds % 60 = 59

instance (i : Instant) : Decidable i.Valid :=
  inferInstanceAs (Decidable (_ ∨ _))

/-- A leap second has a thousand milliseconds more. -/
def millis (i : Instant) : Nat :=
  i.nanos / 1000000

def Precedes (i j : Instant) : Prop :=
  i.seconds < j.seconds ∨ i.seconds = j.seconds ∧ i.millis < j.millis

def day (i : Instant) : Int :=
  i.seconds / secondsPerDay

-- ---------------------------------------------------------------------------
-- The time of day
-- ---------------------------------------------------------------------------

def clockLayout : List (Nat × Char) :=
  [(2, ':'), (2, ':'), (2, '.'), (3, 'Z')]

def clock (i : Instant) : List Nat :=
  [i.secondOfDay / 3600, i.secondOfDay / 60 % 60, i.second, i.subsecond / 1000000]

theorem secondOfDay_lt (i : Instant) : i.secondOfDay < 86400 := by
  simp only [secondOfDay, secondsPerDay]
  omega

theorem seconds_eq (i : Instant) : i.seconds = 86400 * i.day + i.secondOfDay := by
  simp only [day, secondOfDay, secondsPerDay]
  omega

section
variable {a b : Instant} (ha : a.Valid)
include ha

/-- A leap second ends a minute and is its second 60. -/
theorem clock_spec :
    (a.millis < 1000 ∧ a.second = a.secondOfDay % 60 ∧ a.subsecond / 1000000 = a.millis) ∨
      (1000 ≤ a.millis ∧ a.millis < 2000 ∧ a.secondOfDay % 60 = 59 ∧ a.second = 60 ∧
        a.subsecond / 1000000 = a.millis - 1000) := by
  have hseconds := a.seconds_eq
  simp only [Valid, millis, second, subsecond, isLeap, decide_eq_true_eq] at *
  split <;> omega

theorem fits_clock : Fits clockLayout a.clock := by
  have hday := a.secondOfDay_lt
  have hclock := clock_spec ha
  refine .cons ?_ ?_ (.cons ?_ ?_ (.cons ?_ ?_ (.cons ?_ ?_ .nil))) <;> omega

variable (hb : b.Valid)
include hb

theorem clock_eq_clock_iff : a.clock = b.clock ↔ a.secondOfDay = b.secondOfDay ∧ a.millis = b.millis := by
  have ha := clock_spec ha
  have hb := clock_spec hb
  simp only [clock, List.cons.injEq, and_true]
  omega

theorem clock_lt_clock_iff :
    a.clock < b.clock ↔ a.secondOfDay < b.secondOfDay ∨ a.secondOfDay = b.secondOfDay ∧ a.millis < b.millis := by
  have ha := clock_spec ha
  have hb := clock_spec hb
  simp only [clock, List.cons_lt_cons_iff, List.not_lt_nil, and_false, or_false]
  omega

theorem precedes_iff : a.Precedes b ↔ a.day < b.day ∨ a.day = b.day ∧ a.clock < b.clock := by
  have hday := a.secondOfDay_lt
  have hday' := b.secondOfDay_lt
  rw [Precedes, a.seconds_eq, b.seconds_eq, clock_lt_clock_iff ha hb]
  omega

theorem same_iff : (a.seconds = b.seconds ∧ a.millis = b.millis) ↔ a.day = b.day ∧ a.clock = b.clock := by
  have hday := a.secondOfDay_lt
  have hday' := b.secondOfDay_lt
  rw [a.seconds_eq, b.seconds_eq, clock_eq_clock_iff ha hb]
  omega

end

-- ---------------------------------------------------------------------------
-- The date
-- ---------------------------------------------------------------------------

theorem toDays_date (i : Instant) : i.date.toDays = i.day :=
  Date.toDays_ofDays _

theorem date_eq_date_iff {a b : Instant} : a.date = b.date ↔ a.day = b.day :=
  ⟨fun h => by rw [← a.toDays_date, h, b.toDays_date], congrArg Date.ofDays⟩

theorem yearText_cases (year : Int) :
    (year < 0 ∧ yearText year = '-' :: padded 4 year.natAbs) ∨
      (0 ≤ year ∧ year ≤ 9999 ∧ yearText year = padded 4 year.natAbs) ∨
      (9999 < year ∧ yearText year = '+' :: padded 0 year.natAbs) := by
  unfold yearText
  split
  · next h => exact .inl ⟨h, rfl⟩
  split
  · next h => exact .inr (.inl ⟨by omega, h, rfl⟩)
  · exact .inr (.inr ⟨by omega, by simp [padded, zeros]⟩)

theorem yearText_injective : Function.Injective yearText := by
  have hsign {mark : Char} (hmark : mark.isDigit = false) (cs : List Char) (width n : Nat) :
      mark :: cs ≠ padded width n := by
    intro h
    have hdigit := isDigit_of_mem_padded (h ▸ List.mem_cons_self)
    rw [hmark] at hdigit
    cases hdigit
  intro year year' h
  rcases yearText_cases year with ⟨hrange, htext⟩ | ⟨hfirst, hlast, htext⟩ | ⟨hrange, htext⟩ <;>
    rcases yearText_cases year' with ⟨hrange', htext'⟩ | ⟨hfirst', hlast', htext'⟩ | ⟨hrange', htext'⟩ <;>
    rw [htext, htext'] at h
  · have := padded_injective 4 (List.tail_eq_of_cons_eq h)
    omega
  · exact absurd h (hsign rfl _ _ _)
  · cases h
  · exact absurd h.symm (hsign rfl _ _ _)
  · have := padded_injective 4 h
    omega
  · exact absurd h.symm (hsign rfl _ _ _)
  · cases h
  · exact absurd h (hsign rfl _ _ _)
  · have := padded_injective 0 (List.tail_eq_of_cons_eq h)
    omega

-- ---------------------------------------------------------------------------
-- The text
-- ---------------------------------------------------------------------------

def laterLayout : List (Nat × Char) :=
  (2, '-') :: (2, 'T') :: clockLayout

def laterFields (i : Instant) : List Nat :=
  i.date.month :: i.date.day :: i.clock

theorem text_eq (i : Instant) : i.text = yearText i.date.year ++ '-' :: rowText laterLayout i.laterFields := by
  simp [text, dateText, clockText, laterLayout, laterFields, clockLayout, clock, rowText]

theorem fits_laterFields {i : Instant} (h : i.Valid) : Fits laterLayout i.laterFields := by
  have hdate : i.date.Valid := Date.valid_ofDays _
  have hmonth := hdate.month
  have hday : i.date.day ≤ 31 := by
    have hlast := hdate.day.2
    have hleap := Date.leapDay_le i.date.year
    unfold Date.monthLength at hlast
    split at hlast
    · omega
    · split at hlast <;> omega
  refine .cons ?_ ?_ (.cons ?_ ?_ (fits_clock h)) <;> omega

section
variable {a b : Instant} (ha : a.Valid) (hb : b.Valid)
include ha hb

theorem text_eq_text_iff : a.text = b.text ↔ a.seconds = b.seconds ∧ a.millis = b.millis := by
  rw [same_iff ha hb, ← date_eq_date_iff, text_eq, text_eq]
  constructor
  · intro h
    have hfits := fits_laterFields ha
    have hfits' := fits_laterFields hb
    obtain ⟨hyear, hlater⟩ := List.append_inj' h (congrArg (· + 1) (length_rowText_eq hfits hfits'))
    have hfields := rowText_injective hfits hfits' (List.tail_eq_of_cons_eq hlater)
    simp only [laterFields, List.cons.injEq] at hfields
    obtain ⟨hmonth, hday, hclock⟩ := hfields
    exact ⟨Date.ext (yearText_injective hyear) hmonth hday, hclock⟩
  · rintro ⟨hdate, hclock⟩
    rw [laterFields, laterFields, hdate, hclock]

end

def layout : List (Nat × Char) :=
  (4, '-') :: laterLayout

def InCommonYear (i : Instant) : Prop :=
  0 ≤ i.date.year ∧ i.date.year ≤ 9999

instance (i : Instant) : Decidable i.InCommonYear :=
  inferInstanceAs (Decidable (_ ∧ _))

section
variable {a : Instant} (ha : a.Valid) (hyear : a.InCommonYear)
include hyear

theorem text_eq_rowText : a.text = rowText layout (a.date.year.natAbs :: a.laterFields) := by
  obtain ⟨hfirst, hlast⟩ := hyear
  rw [text_eq, yearText, if_neg (by omega), if_pos hlast]
  rfl

include ha

theorem fits_layout : Fits layout (a.date.year.natAbs :: a.laterFields) := by
  obtain ⟨hfirst, hlast⟩ := hyear
  exact .cons (by omega) (by omega) (fits_laterFields ha)

theorem stands_text : List.Forall₂ Stands "dddd-dd-ddTdd:dd:dd.dddZ".toList a.text := by
  rw [text_eq_rowText hyear]
  exact stands_rowText (fits_layout ha hyear) (by decide)

theorem text_lt_text_iff {b : Instant} (hb : b.Valid) (hyear' : b.InCommonYear) :
    a.text < b.text ↔ a.Precedes b := by
  rw [text_eq_rowText hyear, text_eq_rowText hyear', rowText_lt_rowText_iff (fits_layout ha hyear)
    (fits_layout hb hyear'), precedes_iff ha hb]
  have hbefore : a.date.Before b.date ↔ a.day < b.day := Date.ofDays_before_iff
  have hfirst := hyear.1
  have hfirst' := hyear'.1
  have hlt : a.date.year.natAbs < b.date.year.natAbs ↔ a.date.year < b.date.year := by omega
  have heq : a.date.year.natAbs = b.date.year.natAbs ↔ a.date.year = b.date.year := by omega
  simp only [laterFields, List.cons_lt_cons_iff, hlt, heq, ← hbefore, ← date_eq_date_iff, Date.Before, Date.ext_iff,
    and_or_left, or_assoc, and_assoc]

end

end Instant

-- ---------------------------------------------------------------------------
-- Clocks on UTC
-- ---------------------------------------------------------------------------

structure WallClock.Valid (w : WallClock) : Prop where
  date : w.date.Valid
  hour : w.hour < 24
  minute : w.minute < 60
  second : w.second < 60

namespace WallClock

instance (w : WallClock) : Decidable w.Valid :=
  decidable_of_iff (w.date.Valid ∧ w.hour < 24 ∧ w.minute < 60 ∧ w.second < 60)
    ⟨fun ⟨hdate, hhour, hminute, hsecond⟩ => ⟨hdate, hhour, hminute, hsecond⟩,
      fun ⟨hdate, hhour, hminute, hsecond⟩ => ⟨hdate, hhour, hminute, hsecond⟩⟩

theorem text_asUtc {w : WallClock} (hw : w.Valid) (hnanos : w.nanos < 1000000000) :
    w.asUtc.text = Instant.dateText w.date ++ 'T' :: (padded 2 w.hour ++ ':' :: (padded 2 w.minute ++ ':' ::
      (padded 2 w.second ++ '.' :: (padded 3 (w.nanos / 1000000) ++ ['Z'])))) := by
  obtain ⟨hdate, hhour, hminute, hsecond⟩ := hw
  have hday : w.asUtc.day = w.date.toDays := by
    simp only [Instant.day, asUtc, Instant.secondsPerDay]
    omega
  have hname : w.asUtc.date = w.date := by
    rw [← Date.ofDays_toDays hdate, ← hday]
    rfl
  have hseconds : w.asUtc.secondOfDay = 3600 * w.hour + 60 * w.minute + w.second := by
    simp only [Instant.secondOfDay, asUtc, Instant.secondsPerDay]
    omega
  have hmillis : w.asUtc.millis = w.nanos / 1000000 := rfl
  have hclock : w.asUtc.clock = [w.hour, w.minute, w.second, w.nanos / 1000000] := by
    have hspec := Instant.clock_spec (.inl hnanos : w.asUtc.Valid)
    simp only [Instant.clock, List.cons.injEq, and_true]
    omega
  simp [Instant.text_eq, Instant.laterFields, hname, hclock, Instant.laterLayout, Instant.clockLayout, rowText,
    Instant.dateText]

end WallClock

-- ---------------------------------------------------------------------------
-- Moments
-- ---------------------------------------------------------------------------

/-- An instant as it is given: by itself, or by a clock and the seconds that
the clock is ahead of UTC. -/
inductive Moment where
  | instant (i : Instant)
  | clock (w : WallClock) (offset : Int)
  deriving DecidableEq, Repr

namespace Moment

def toInstant : Moment → Instant
  | instant i => i
  | clock w offset => w.atOffset offset

def text (m : Moment) : String :=
  (toValue m.toInstant).format

def octets (m : Moment) : List UInt8 :=
  Text.Utf8.encode m.text.toList

theorem toList_text (m : Moment) : m.text.toList = m.toInstant.text :=
  String.toList_ofList

theorem ascii_text (m : Moment) : Text.Ascii m.text.toList := by
  rw [toList_text]
  exact m.toInstant.compact_text.ascii

/-- Texts are equal at the same millisecond only, and in years of four digits
they have one shape and stand in the order of time, octet by octet. -/
theorem texts_tell_instants_and_keep_order {a b : Moment} (ha : a.toInstant.Valid) (hb : b.toInstant.Valid) :
    (a.text = b.text ↔ a.toInstant.seconds = b.toInstant.seconds ∧ a.toInstant.millis = b.toInstant.millis) ∧
      (a.toInstant.InCommonYear → b.toInstant.InCommonYear →
        List.Forall₂ Stands "dddd-dd-ddTdd:dd:dd.dddZ".toList a.text.toList ∧
        List.Forall₂ Stands "dddd-dd-ddTdd:dd:dd.dddZ".toList b.text.toList ∧
        (a.octets < b.octets ↔ a.toInstant.Precedes b.toInstant)) := by
  rw [← String.toList_inj, octets, octets, Text.encode_lt_encode_iff a.ascii_text b.ascii_text, toList_text,
    toList_text]
  refine ⟨Instant.text_eq_text_iff ha hb, fun hyear hyear' => ⟨?_, ?_, ?_⟩⟩
  · exact Instant.stands_text ha hyear
  · exact Instant.stands_text hb hyear'
  · exact Instant.text_lt_text_iff ha hyear hb hyear'

theorem texts_tell_instants_and_keep_order_around_leap_second :
    let leap := clock ⟨⟨2017, 1, 1⟩, 1, 59, 59, 1999000000⟩ 7200
    let newYear := instant ⟨1483228800, 0⟩
    leap.text ≠ newYear.text ∧
      List.Forall₂ Stands "dddd-dd-ddTdd:dd:dd.dddZ".toList leap.text.toList ∧ leap.octets < newYear.octets := by
  intro leap newYear
  have hleap : leap.toInstant.Valid := by decide
  have hnewYear : newYear.toInstant.Valid := by decide
  obtain ⟨hsame, hcommon⟩ := texts_tell_instants_and_keep_order hleap hnewYear
  obtain ⟨hshape, -, horder⟩ := hcommon (by decide) (by decide)
  exact ⟨fun h => absurd (hsame.mp h) (by decide), hshape, horder.mpr (.inl (by decide))⟩

end Moment

end ListQuery
