import ListQuery.Proofs.Time.Instant

/-!
# Laws of the zone

Which instants show a wall clock's time in the zone of North American summer
time, and for which clocks the earliest of them is the one that is read.
-/

namespace ListQuery

namespace WallClock

theorem atOffset_zero (w : WallClock) : w.atOffset 0 = w.asUtc := by
  rw [atOffset, Int.sub_zero]

theorem atOffset_inj (w : WallClock) {offset offset' : Int} :
    w.atOffset offset = w.atOffset offset' ↔ offset = offset' := by
  simp only [atOffset, Instant.mk.injEq, and_true]
  omega

end WallClock

namespace Zone

-- ---------------------------------------------------------------------------
-- The place of summer time in the year
-- ---------------------------------------------------------------------------

def newYear (year : Int) : Int :=
  Date.toDays ⟨year, 1, 1⟩ * Instant.secondsPerDay

theorem sunday_spec (year : Int) (month nth : Nat) :
    Date.weekday (sunday year month nth) = 0 ∧
      Date.toDays ⟨year, month, 1⟩ + 7 * nth ≤ sunday year month nth ∧
      sunday year month nth < Date.toDays ⟨year, month, 1⟩ + 7 * (nth + 1) := by
  simp only [sunday, Date.weekday]
  omega

theorem toDays_first_of_month (year : Int) :
    Date.toDays ⟨year, 1, 1⟩ = Date.daysBeforeMarch (year - 1) + 306 - Date.epochShift ∧
      Date.toDays ⟨year, 3, 1⟩ = Date.daysBeforeMarch year - Date.epochShift ∧
      Date.toDays ⟨year, 11, 1⟩ = Date.daysBeforeMarch year + 245 - Date.epochShift := by
  have hfirst (month : Nat) := Date.toDays_eq (d := ⟨year, month, 1⟩) (Nat.le_refl 1)
  refine ⟨(hfirst 1).trans ?_, (hfirst 3).trans ?_, (hfirst 11).trans ?_⟩ <;>
    simp [Date.marchYear, Date.marchMonth, Date.daysBeforeMonth]

theorem summer_within_year (year : Int) :
    newYear year + 86400 ≤ springForward year ∧ springForward year + 86400 ≤ fallBack year ∧
      fallBack year + 86400 ≤ newYear (year + 1) := by
  obtain ⟨hjanuary, hmarch, hnovember⟩ := toDays_first_of_month year
  obtain ⟨hnext, -, -⟩ := toDays_first_of_month (year + 1)
  have hyear := Date.daysBeforeMarch_succ (year - 1)
  obtain ⟨-, hspring, hspring'⟩ := sunday_spec year 3 1
  obtain ⟨-, hautumn, hautumn'⟩ := sunday_spec year 11 0
  rw [Int.sub_add_cancel] at hyear
  rw [Int.add_sub_cancel] at hnext
  have hleap := Date.leapDay_le year
  simp only [newYear, springForward, fallBack, Instant.secondsPerDay]
  omega

theorem newYear_le {year later : Int} (h : year < later) : newYear (year + 1) ≤ newYear later := by
  rcases Int.lt_or_eq_of_le (Int.add_one_le_of_lt h) with hlt | heq
  · have hmarch := Date.daysBeforeMarch_le (Int.sub_lt_sub_right hlt 1)
    rw [Int.sub_add_cancel] at hmarch
    have hsucc := Date.daysBeforeMarch_succ (year + 1 - 1)
    rw [Int.sub_add_cancel] at hsucc
    simp only [newYear, (toDays_first_of_month _).1, Instant.secondsPerDay]
    omega
  · rw [heq]

-- ---------------------------------------------------------------------------
-- What a clock in the zone shows
-- ---------------------------------------------------------------------------

/-- Summer time goes from 02:00 standard time in March to 02:00 summer time in November. -/
def InSummer (seconds : Int) : Prop :=
  ∃ year, springForward year - standardOffset ≤ seconds ∧ seconds < fallBack year - summerOffset

/-- At the instant a clock in the zone shows this time. -/
def Shows (i : Instant) (w : WallClock) : Prop :=
  w.nanos = i.nanos ∧
    (InSummer i.seconds ∧ w.asUtc.seconds = i.seconds + summerOffset ∨
      ¬ InSummer i.seconds ∧ w.asUtc.seconds = i.seconds + standardOffset)

/-- The earliest instant that shows the clock's time, or the clock on UTC if there is none. -/
structure Reads (w : WallClock) (i : Instant) : Prop where
  earliest : (∃ j, Shows j w) → Shows i w ∧ ∀ j, Shows j w → i.seconds ≤ j.seconds
  utc : (∀ j, ¬ Shows j w) → i = w.asUtc

/-- The hour that spring leaves out. -/
def LeftOut (w : WallClock) : Prop :=
  springForward w.date.year ≤ w.asUtc.seconds ∧ w.asUtc.seconds < springForward w.date.year + 3600

/-- The hour that autumn repeats. -/
def Repeated (w : WallClock) : Prop :=
  fallBack w.date.year - 3600 ≤ w.asUtc.seconds ∧ w.asUtc.seconds < fallBack w.date.year

instance (w : WallClock) : Decidable (LeftOut w) :=
  inferInstanceAs (Decidable (_ ∧ _))

instance (w : WallClock) : Decidable (Repeated w) :=
  inferInstanceAs (Decidable (_ ∧ _))

section
variable {w : WallClock} (hw : w.Valid)
include hw

theorem within_year : newYear w.date.year ≤ w.asUtc.seconds ∧ w.asUtc.seconds < newYear (w.date.year + 1) := by
  obtain ⟨hdate, hhour, hminute, hsecond⟩ := hw
  have hnewYear (year : Int) : Date.Valid ⟨year, 1, 1⟩ := ⟨by simp, by simp [Date.monthLength]⟩
  have hfirst : Date.toDays ⟨w.date.year, 1, 1⟩ ≤ w.date.toDays := by
    have hmonth := hdate.month
    have hday := hdate.day
    rcases Date.before_or_eq_or_before ⟨w.date.year, 1, 1⟩ w.date with hbefore | heq | hafter
    · exact Int.le_of_lt (Date.toDays_lt_of_before (hnewYear _) hdate hbefore)
    · rw [← heq]
    · simp only [Date.Before] at hafter
      omega
  have hlast : w.date.toDays < Date.toDays ⟨w.date.year + 1, 1, 1⟩ :=
    Date.toDays_lt_of_before hdate (hnewYear _) (.inl (Int.lt_succ _))
  simp only [WallClock.asUtc, newYear, Instant.secondsPerDay]
  omega

/-- Hours after a clock's time, as offsets are, only the summer of its own year matters. -/
theorem inSummer_iff {seconds : Int} (hfirst : w.asUtc.seconds ≤ seconds) (hlast : seconds ≤ w.asUtc.seconds + 18000) :
    InSummer seconds ↔ springForward w.date.year - standardOffset ≤ seconds ∧
      seconds < fallBack w.date.year - summerOffset := by
  refine ⟨fun ⟨year, hspring, hautumn⟩ => ?_, fun h => ⟨_, h⟩⟩
  obtain ⟨hbegin, hend⟩ := within_year hw
  have hsummer := summer_within_year year
  simp only [standardOffset, summerOffset] at *
  rcases Int.lt_trichotomy year w.date.year with hearlier | rfl | hlater
  · have := newYear_le hearlier
    omega
  · exact ⟨hspring, hautumn⟩
  · have := newYear_le hlater
    omega

theorem shows_iff {i : Instant} : Shows i w ↔
    i = w.atOffset summerOffset ∧
        springForward w.date.year + 3600 ≤ w.asUtc.seconds ∧ w.asUtc.seconds < fallBack w.date.year ∨
      i = w.atOffset standardOffset ∧
        (w.asUtc.seconds < springForward w.date.year ∨ fallBack w.date.year - 3600 ≤ w.asUtc.seconds) := by
  have hnanos : w.asUtc.nanos = w.nanos := rfl
  obtain ⟨seconds, nanos⟩ := i
  by_cases hfirst : w.asUtc.seconds ≤ seconds ∧ seconds ≤ w.asUtc.seconds + 18000
  · simp only [Shows, inSummer_iff hw hfirst.1 hfirst.2, WallClock.atOffset, Instant.mk.injEq, hnanos,
      standardOffset, summerOffset]
    omega
  · simp only [Shows, WallClock.atOffset, Instant.mk.injEq, hnanos, standardOffset, summerOffset]
    omega

theorem not_shows_iff : (∀ i, ¬ Shows i w) ↔ LeftOut w := by
  have hsummer := (summer_within_year w.date.year).2.1
  constructor
  · intro h
    have hsummer := mt (shows_iff hw).mpr (h (w.atOffset summerOffset))
    have hstandard := mt (shows_iff hw).mpr (h (w.atOffset standardOffset))
    simp only [true_and, not_or] at hsummer hstandard
    unfold LeftOut
    omega
  · rintro ⟨hfirst, hlast⟩ i h
    rcases (shows_iff hw).mp h with ⟨-, hrange⟩ | ⟨-, hrange⟩ <;> omega

end

-- ---------------------------------------------------------------------------
-- What is read
-- ---------------------------------------------------------------------------

theorem reads_iff_of_least {w : WallClock} {least : Instant} (hshown : Shows least w)
    (hleast : ∀ j, Shows j w → j = least ∨ least.seconds < j.seconds) (i : Instant) : Reads w i ↔ i = least := by
  constructor
  · intro h
    obtain ⟨hshows, hearliest⟩ := h.earliest ⟨least, hshown⟩
    rcases hleast i hshows with heq | hlt
    · exact heq
    · exact absurd (hearliest least hshown) (Int.not_le.mpr hlt)
  · rintro rfl
    refine ⟨fun _ => ⟨hshown, fun j hj => ?_⟩, fun h => absurd hshown (h i)⟩
    rcases hleast j hj with rfl | hlt
    · exact Int.le_refl _
    · exact Int.le_of_lt hlt

def earliestOffset (w : WallClock) : Int :=
  if LeftOut w then 0
  else if springForward w.date.year ≤ w.asUtc.seconds ∧ w.asUtc.seconds < fallBack w.date.year then summerOffset
  else standardOffset

/-- The calendar holds the instants of the clock at both offsets. -/
def InCalendar (w : WallClock) : Prop :=
  inRange (w.atOffset standardOffset).seconds = true ∧ inRange (w.atOffset summerOffset).seconds = true

instance (w : WallClock) : Decidable (InCalendar w) :=
  inferInstanceAs (Decidable (_ ∧ _))

theorem offset?_eq_some {year seconds offset : Int} (h : offset? year seconds = some offset) :
    offset = standardOffset ∨ offset = summerOffset := by
  unfold offset? at h
  split at h
  · exact .inl (Option.some.inj h).symm
  split at h
  · cases h
  split at h
  · exact .inr (Option.some.inj h).symm
  · exact .inl (Option.some.inj h).symm

theorem toInstant_eq {w : WallClock} (h : InCalendar w) :
    toInstant w = w.atOffset ((offset? w.date.year w.asUtc.seconds).getD 0) := by
  unfold toInstant
  cases hread : offset? w.date.year w.asUtc.seconds with
  | none => exact w.atOffset_zero.symm
  | some offset =>
    have hrange : inRange (w.atOffset offset).seconds = true := by
      rcases offset?_eq_some hread with rfl | rfl
      · exact h.1
      · exact h.2
    exact if_pos hrange

section
variable {w : WallClock} (hw : w.Valid)
include hw

theorem reads_iff (i : Instant) : Reads w i ↔ i = w.atOffset (earliestOffset w) := by
  have hlater : (w.atOffset summerOffset).seconds < (w.atOffset standardOffset).seconds := by
    simp only [WallClock.atOffset, standardOffset, summerOffset]
    omega
  unfold earliestOffset
  split
  · next hleftOut =>
    have hnone := (not_shows_iff hw).mpr hleftOut
    rw [w.atOffset_zero]
    exact ⟨fun h => h.utc hnone, fun h => ⟨fun ⟨j, hj⟩ => absurd hj (hnone j), fun _ => h⟩⟩
  next hleftOut =>
  unfold LeftOut at hleftOut
  split
  · refine reads_iff_of_least ((shows_iff hw).mpr (.inl ⟨rfl, by omega⟩)) (fun j hj => ?_) i
    rcases (shows_iff hw).mp hj with ⟨rfl, -⟩ | ⟨rfl, -⟩
    · exact .inl rfl
    · exact .inr hlater
  · refine reads_iff_of_least ((shows_iff hw).mpr (.inr ⟨rfl, by omega⟩)) (fun j hj => ?_) i
    rcases (shows_iff hw).mp hj with ⟨-, hrange⟩ | ⟨rfl, -⟩
    · omega
    · exact .inl rfl

/-- The earliest instant is read for all clocks but those of the hour that
autumn repeats and of the first second that spring leaves out. These are taken
to be on standard time. -/
theorem toInstant_reads_earliest_iff (hcalendar : InCalendar w) :
    (Reads w (toInstant w) ↔ ¬ (Repeated w ∨ w.asUtc.seconds = springForward w.date.year)) ∧
      (Repeated w ∨ w.asUtc.seconds = springForward w.date.year → toInstant w = w.atOffset standardOffset) ∧
      ((∀ i, ¬ Shows i w) ↔ LeftOut w) := by
  have hyear := (summer_within_year w.date.year).2.1
  rw [reads_iff hw, toInstant_eq hcalendar, w.atOffset_inj, w.atOffset_inj]
  refine ⟨?_, ?_, not_shows_iff hw⟩
  · unfold earliestOffset offset? LeftOut Repeated
    repeat' split
    all_goals simp only [Option.getD_some, Option.getD_none, standardOffset, summerOffset]
    all_goals omega
  · unfold offset? Repeated
    intro h
    rcases h with h | h
    · rw [if_neg (by omega), if_neg (by omega), if_neg (by omega), Option.getD_some]
    · rw [if_pos (by omega), Option.getD_some]

end

theorem toInstant_reads_earliest_in_left_out_hour :
    let w : WallClock := ⟨⟨2024, 3, 10⟩, 2, 30, 0, 0⟩
    (∀ i, ¬ Shows i w) ∧ Reads w (toInstant w) := by
  intro w
  have hw : w.Valid := by decide
  have hcalendar : InCalendar w := by decide
  obtain ⟨hreads, -, hnone⟩ := toInstant_reads_earliest_iff hw hcalendar
  exact ⟨hnone.mpr (by decide), hreads.mpr (by decide)⟩

/-- Half past one is shown twice on the day that autumn changes the clocks, and
the later instant is read. Two o'clock is not shown on the day that spring does,
and is not read as on UTC. -/
theorem toInstant_misses_earliest_on_days_of_change :
    let autumn : WallClock := ⟨⟨2024, 11, 3⟩, 1, 30, 0, 0⟩
    let spring : WallClock := ⟨⟨2024, 3, 10⟩, 2, 0, 0, 0⟩
    (autumn.Valid ∧ InCalendar autumn ∧ Shows ⟨1730611800, 0⟩ autumn ∧ toInstant autumn = ⟨1730615400, 0⟩ ∧
        ¬ Reads autumn (toInstant autumn)) ∧
      (spring.Valid ∧ InCalendar spring ∧ (∀ i, ¬ Shows i spring) ∧ toInstant spring ≠ spring.asUtc ∧
        ¬ Reads spring (toInstant spring)) := by
  intro autumn spring
  have hautumn : autumn.Valid := by decide
  have hspring : spring.Valid := by decide
  have hshows : Shows ⟨1730611800, 0⟩ autumn := (shows_iff hautumn).mpr (.inl (by decide))
  have hnone : ∀ i, ¬ Shows i spring := (not_shows_iff hspring).mpr (by decide)
  have hutc : toInstant spring ≠ spring.asUtc := by decide
  refine ⟨⟨hautumn, by decide, hshows, by decide, fun h => ?_⟩,
    hspring, by decide, hnone, hutc, fun h => hutc (h.utc hnone)⟩
  exact absurd ((h.earliest ⟨_, hshows⟩).2 _ hshows) (by decide)

end Zone

end ListQuery
