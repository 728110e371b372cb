import ListQuery.Time.Instant

/-!
# Wall clocks

Times of day without a zone, and the instants they stand for: at a fixed
offset from UTC, or in a zone of North American summer time.
-/

namespace ListQuery

structure WallClock where
  date : Date
  hour : Nat
  minute : Nat
  second : Nat
  nanos : Nat
  deriving DecidableEq, Repr

namespace WallClock

def asUtc (w : WallClock) : Instant :=
  { seconds := w.date.toDays * Instant.secondsPerDay + (3600 * w.hour + 60 * w.minute + w.second : Nat)
    nanos := w.nanos }

/-- The instant at which a clock shows this time that is `offset` seconds
ahead of UTC. -/
def atOffset (w : WallClock) (offset : Int) : Instant :=
  { w.asUtc with seconds := w.asUtc.seconds - offset }

end WallClock

namespace Zone

def standardOffset : Int := -18000

def summerOffset : Int := -14400

def sunday (year : Int) (month nth : Nat) : Int :=
  let first := Date.toDays ⟨year, month, 1⟩
  first + ((7 - Date.weekday first) % 7 + 7 * nth : Nat)

/-- 02:00 on the second Sunday of March, when clocks go forward by an hour. -/
def springForward (year : Int) : Int :=
  sunday year 3 1 * Instant.secondsPerDay + 7200

/-- 02:00 on the first Sunday of November, when clocks go back by an hour. -/
def fallBack (year : Int) : Int :=
  sunday year 11 0 * Instant.secondsPerDay + 7200

/-- The offset at which a wall clock is read, `seconds` being what it shows
counted as on UTC. In the hour that spring leaves out it has none; the hour
that autumn repeats is standard time. -/
def offset? (year seconds : Int) : Option Int :=
  if seconds ≤ springForward year then some standardOffset
  else if seconds < springForward year + 3600 then none
  else if seconds < fallBack year - 3600 then some summerOffset
  else some standardOffset

def leastSeconds : Int :=
  Date.toDays ⟨-262143, 1, 1⟩ * Instant.secondsPerDay

def greatestSeconds : Int :=
  Date.toDays ⟨262142, 12, 31⟩ * Instant.secondsPerDay + 86399

def inRange (seconds : Int) : Bool :=
  leastSeconds ≤ seconds && seconds ≤ greatestSeconds

/-- The instant that a wall clock in the zone stands for. One that shows no
time of the zone, or an instant outside the calendar, is taken to be on UTC. -/
def toInstant (w : WallClock) : Instant :=
  match offset? w.date.year w.asUtc.seconds with
  | none => w.asUtc
  | some offset => if inRange (w.atOffset offset).seconds then w.atOffset offset else w.asUtc

end Zone

end ListQuery
