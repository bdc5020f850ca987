import EntitySql.Calendar.Date

/-!
# Times of day, moments and instants

**Time of day.** Nanoseconds since midnight, less than a day.

**Moment.** A date and a time of day, without zone. On the line of nanoseconds since 1970 it is
its distance, read as if it were in UTC.

**Zoned moment.** A local moment and the offset of its zone from UTC. Its instant is the distance
of the local moment less the offset; two zoned moments are equal when their instants are. The
instant may lie outside the years a moment can name, so `utc?` may fail.
-/

namespace EntitySql

set_option autoImplicit false

/-- Nanoseconds in a day. -/
def nanosPerDay : Int := 86400000000000

/-- Nanoseconds in a second. -/
def nanosPerSecond : Int := 1000000000

/-- Nanoseconds in a millisecond. -/
def nanosPerMilli : Int := 1000000

/-- Milliseconds in a day. -/
def millisPerDay : Int := 86400000

/-- A time of day, to the nanosecond. -/
structure TimeOfDay where
  nanos : Int
  zero_le : 0 ≤ nanos
  lt_day : nanos < 86400000000000
deriving DecidableEq, Repr

namespace TimeOfDay

/-- The time a number of nanoseconds after midnight, if it is on the same day. -/
def ofNanos? (nanos : Int) : Option TimeOfDay :=
  if h : 0 ≤ nanos ∧ nanos < 86400000000000 then some ⟨nanos, h.1, h.2⟩ else none

/-- The time left of a number of nanoseconds when whole days are taken away. -/
def ofNanosMod (nanos : Int) : TimeOfDay where
  nanos := nanos % nanosPerDay
  zero_le := Int.emod_nonneg _ (by decide)
  lt_day := Int.emod_lt_of_pos _ (by decide)

/-- The time of a clock face, if hour, minute, second and nanosecond are in range. -/
def ofClock? (hour minute second nano : Nat) : Option TimeOfDay :=
  if hour < 24 ∧ minute < 60 ∧ second < 60 ∧ nano < 1000000000 then
    ofNanos? ((((hour * 60 + minute) * 60 + second) * 1000000000 + nano : Nat) : Int)
  else none

/-- The start of the day. -/
def midnight : TimeOfDay := ⟨0, by decide, by decide⟩

/-- The last millisecond of the day. -/
def lastMilli : TimeOfDay := ⟨86399999000000, by decide, by decide⟩

def hour (t : TimeOfDay) : Nat := (t.nanos / 3600000000000).toNat

def minute (t : TimeOfDay) : Nat := (t.nanos / 60000000000 % 60).toNat

def second (t : TimeOfDay) : Nat := (t.nanos / 1000000000 % 60).toNat

/-- Nanoseconds within the second. -/
def nano (t : TimeOfDay) : Nat := (t.nanos % 1000000000).toNat

/-- Whole milliseconds since midnight. -/
def millis (t : TimeOfDay) : Int := t.nanos / nanosPerMilli

@[ext] theorem ext {a b : TimeOfDay} (h : a.nanos = b.nanos) : a = b := by
  cases a; cases b; cases h; rfl

end TimeOfDay

/-- A date and a time of day. -/
structure Moment where
  date : Date
  time : TimeOfDay
deriving DecidableEq, Repr

namespace Moment

/-- The moment the day starts. -/
def atMidnight (d : Date) : Moment := ⟨d, .midnight⟩

/-- Nanoseconds since the start of 1970. -/
def toNanos (m : Moment) : Int := m.date.day * nanosPerDay + m.time.nanos

/-- The moment a number of nanoseconds after the start of 1970, if it is in range. -/
def ofNanos? (nanos : Int) : Option Moment :=
  (Date.ofDay? (nanos / nanosPerDay)).map fun date => ⟨date, .ofNanosMod nanos⟩

/-- A moment is found at its distance. -/
@[simp] theorem ofNanos?_toNanos (m : Moment) : ofNanos? m.toNanos = some m := by
  have low := m.time.zero_le
  have high := m.time.lt_day
  have day : m.toNanos / nanosPerDay = m.date.day := by
    simp only [toNanos, nanosPerDay]
    omega
  have time : TimeOfDay.ofNanosMod m.toNanos = m.time := by
    apply TimeOfDay.ext
    simp only [TimeOfDay.ofNanosMod, toNanos, nanosPerDay]
    omega
  simp [ofNanos?, day, time]

/-- What is found at a distance has that distance. -/
theorem toNanos_of_ofNanos? {nanos : Int} {m : Moment} (h : ofNanos? nanos = some m) :
    m.toNanos = nanos := by
  simp only [ofNanos?, Option.map_eq_some_iff] at h
  obtain ⟨date, found, rfl⟩ := h
  have day := Date.ofDay?_eq_some_iff.1 found
  simp only [toNanos, TimeOfDay.ofNanosMod, day, nanosPerDay]
  omega

end Moment

/-- A local moment and the offset of its zone from UTC in seconds, less than 26 hours. -/
structure ZonedMoment where
  wall : Moment
  offset : Int
  min_le : -93599 ≤ offset
  le_max : offset ≤ 93599
deriving DecidableEq, Repr

namespace ZonedMoment

/-- A moment of UTC. -/
def ofUtc (m : Moment) : ZonedMoment := ⟨m, 0, by decide, by decide⟩

/-- A local moment at an offset of hours, minutes and seconds of one sign, if they are in
range. -/
def ofOffset? (m : Moment) (negative : Bool) (hours minutes seconds : Nat) :
    Option ZonedMoment :=
  let magnitude : Int := ((hours * 60 + minutes) * 60 + seconds : Nat)
  let offset := if negative then -magnitude else magnitude
  if h : hours ≤ 25 ∧ minutes < 60 ∧ seconds < 60 ∧ -93599 ≤ offset ∧ offset ≤ 93599 then
    some ⟨m, offset, h.2.2.2.1, h.2.2.2.2⟩
  else none

/-- Nanoseconds since the start of 1970 in UTC. -/
def instant (z : ZonedMoment) : Int := z.wall.toNanos - z.offset * nanosPerSecond

/-- The same instant as a moment of UTC, if it is in range. -/
def utc? (z : ZonedMoment) : Option Moment := Moment.ofNanos? z.instant

@[simp] theorem instant_ofUtc (m : Moment) : (ofUtc m).instant = m.toNanos := by
  simp [instant, ofUtc]

@[simp] theorem utc?_ofUtc (m : Moment) : (ofUtc m).utc? = some m := by
  simp [utc?]

/-- The local day with another time. -/
def withTime (z : ZonedMoment) (t : TimeOfDay) : ZonedMoment :=
  { z with wall := { z.wall with time := t } }

end ZonedMoment

end EntitySql
