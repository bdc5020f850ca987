import EntitySql.Calendar.Moment

/-!
# Reading dates and times

**Dates.** A year of four digits with an optional sign, month and day of two digits each, joined
by hyphens.

**Times.** Hour and minute, with an optional second, and an optional fraction after it.

**Moments.** A date and a time joined by a blank or by `T`; after `T` the second is required. A
date alone is its midnight.

**Zoned moments.** The internet profile: an unsigned year, any one character before the time, an
optional fraction, and `Z` or an offset below 24 hours. Its second 60 stands for the last
nanosecond of a month of UTC. Else the spaced form: a blank before the time, no fraction, an
offset below 26 hours. Else a moment without zone, taken in UTC.
-/

namespace EntitySql

set_option autoImplicit false

/-! ## Pieces -/

/-- The value of exactly `count` digits at the start, and what follows. -/
def readFixed (acc : Nat) : Nat → List Char → Option (Nat × List Char)
  | 0, cs => some (acc, cs)
  | _ + 1, [] => none
  | count + 1, c :: rest =>
    if c.isDigit then readFixed (acc * 10 + (c.toNat - 48)) count rest else none

/-- What follows one expected character. -/
def afterChar? (expected : Char) : List Char → Option (List Char)
  | [] => none
  | c :: rest => if c = expected then some rest else none

/-- Further digits of a fraction, each worth a tenth of the one before. -/
def readFractionTail (acc weight : Nat) : List Char → Nat × List Char
  | [] => (acc, [])
  | c :: rest =>
    if c.isDigit then readFractionTail (acc + (c.toNat - 48) * weight) (weight / 10) rest
    else (acc, c :: rest)

/-- The nanoseconds of a fraction of at least one digit; from the tenth on digits count nothing. -/
def readFraction : List Char → Option (Nat × List Char)
  | [] => none
  | c :: rest =>
    if c.isDigit then some (readFractionTail ((c.toNat - 48) * 100000000) 10000000 rest)
    else none

/-- A minus or plus sign, and whether it is the minus. -/
def readSign : List Char → Option (Bool × List Char)
  | '-' :: rest => some (true, rest)
  | '+' :: rest => some (false, rest)
  | _ => none

/-! ## Dates -/

/-- Month and day after a year. -/
def readMonthDay (year : Int) (cs : List Char) : Option (CivilDate × List Char) := do
  let (month, cs) ← readFixed 0 2 (← afterChar? '-' cs)
  let (day, cs) ← readFixed 0 2 (← afterChar? '-' cs)
  return (⟨year, month, day⟩, cs)

/-- A date whose year may have a sign. -/
def readCivil (cs : List Char) : Option (CivilDate × List Char) := do
  let (negative, cs) := (readSign cs).getD (false, cs)
  let (year, cs) ← readFixed 0 4 cs
  readMonthDay (if negative then -(year : Int) else year) cs

/-- A date whose year has no sign. -/
def readUnsignedCivil (cs : List Char) : Option (CivilDate × List Char) := do
  let (year, cs) ← readFixed 0 4 cs
  readMonthDay year cs

/-! ## Times -/

/-- Hour, minute and second as they stand, in range or not. -/
structure ClockDigits where
  hour : Nat
  minute : Nat
  second : Nat
  nano : Nat
deriving DecidableEq, Repr

namespace ClockDigits

/-- The time of day, if all parts are in range. -/
def time? (c : ClockDigits) : Option TimeOfDay :=
  TimeOfDay.ofClock? c.hour c.minute c.second c.nano

end ClockDigits

/-- Hour and minute. -/
def readHourMinute (cs : List Char) : Option ((Nat × Nat) × List Char) := do
  let (hour, cs) ← readFixed 0 2 cs
  let (minute, cs) ← readFixed 0 2 (← afterChar? ':' cs)
  return ((hour, minute), cs)

/-- Hour, minute and second. -/
def readClock (cs : List Char) : Option (ClockDigits × List Char) := do
  let ((hour, minute), cs) ← readHourMinute cs
  let (second, cs) ← readFixed 0 2 (← afterChar? ':' cs)
  return (⟨hour, minute, second, 0⟩, cs)

/-- An optional fraction after a clock; a point needs digits. -/
def readClockFraction (cs : List Char) : Option (ClockDigits × List Char) := do
  let (clock, cs) ← readClock cs
  match cs with
  | '.' :: rest => do
    let (nano, cs) ← readFraction rest
    return ({ clock with nano }, cs)
  | _ => return (clock, cs)

/-- The rest of a text is nothing. -/
def exhausted {α : Type} : α × List Char → Option α
  | (a, []) => some a
  | (_, _ :: _) => none

/-- Hour and minute as a whole text. -/
def shortClock? (cs : List Char) : Option ClockDigits :=
  (readHourMinute cs).bind exhausted |>.map fun (hour, minute) => ⟨hour, minute, 0, 0⟩

namespace Date

/-- Reads a whole text as a date. -/
def ofText? (cs : List Char) : Option Date :=
  (readCivil cs).bind exhausted |>.bind ofCivil?

end Date

namespace TimeOfDay

/-- Reads a whole text as a time of day. -/
def ofText? (cs : List Char) : Option TimeOfDay :=
  match (readClockFraction cs).bind exhausted with
  | some clock => clock.time?
  | none => (shortClock? cs).bind ClockDigits.time?

end TimeOfDay

namespace Moment

/-- Reads a whole text as a date and a time. -/
def ofDateTimeText? (cs : List Char) : Option Moment := do
  let (civil, cs) ← readCivil cs
  let clock ← match cs with
    | 'T' :: rest => (readClockFraction rest).bind exhausted
    | ' ' :: rest => ((readClockFraction rest).bind exhausted).or (shortClock? rest)
    | _ => none
  return ⟨← Date.ofCivil? civil, ← clock.time?⟩

/-- Reads a whole text as a moment; a date alone is its midnight. -/
def ofText? (cs : List Char) : Option Moment :=
  (ofDateTimeText? cs).or ((Date.ofText? cs).map atMidnight)

end Moment

namespace ZonedMoment

/-- Hours and minutes of an offset after its sign. -/
def readOffset (cs : List Char) : Option ((Bool × Nat × Nat) × List Char) := do
  let (negative, cs) ← readSign cs
  let ((hours, minutes), cs) ← readHourMinute cs
  return ((negative, hours, minutes), cs)

/-- The zone of the internet profile: `Z` of either case, or an offset below 24 hours. -/
def readZone (cs : List Char) : Option ((Bool × Nat × Nat) × List Char) :=
  match cs with
  | 'Z' :: rest | 'z' :: rest => some ((false, 0, 0), rest)
  | _ => do
    let ((negative, hours, minutes), cs) ← readOffset cs
    if hours ≤ 23 then some ((negative, hours, minutes), cs) else none

/-- The moment is the last nanosecond of a month of UTC. -/
def endsMonth (z : ZonedMoment) : Bool :=
  let shifted := z.instant % nanosPerDay
  let civil := CivilDate.ofDays (z.instant / nanosPerDay)
  shifted == nanosPerDay - 1 && -9999 ≤ civil.year && civil.year ≤ 9999 &&
    civil.day == CivilDate.daysInMonth civil.year civil.month

/-- What follows one character of a single byte. -/
def afterAnyAscii? : List Char → Option (List Char)
  | [] => none
  | c :: rest => if c.toNat < 0x80 then some rest else none

/-- Reads a whole text in the internet profile. -/
def ofInternetText? (cs : List Char) : Option ZonedMoment := do
  let (civil, cs) ← readUnsignedCivil cs
  let (clock, cs) ← readClockFraction (← afterAnyAscii? cs)
  let (negative, hours, minutes) ← (readZone cs).bind exhausted
  let leap := clock.second == 60
  let time ← if leap then TimeOfDay.ofClock? clock.hour clock.minute 59 999999999 else clock.time?
  let z ← ofOffset? ⟨← Date.ofCivil? civil, time⟩ negative hours minutes 0
  if leap && !z.endsMonth then none else some z

/-- Reads a whole text in the spaced form. -/
def ofSpacedText? (cs : List Char) : Option ZonedMoment := do
  let (civil, cs) ← readCivil cs
  let (clock, cs) ← readClock (← afterChar? ' ' cs)
  let (negative, hours, minutes) ← (readOffset cs).bind exhausted
  ofOffset? ⟨← Date.ofCivil? civil, ← clock.time?⟩ negative hours minutes 0

/-- Reads a whole text as a zoned moment; a moment without zone is in UTC. -/
def ofText? (cs : List Char) : Option ZonedMoment :=
  (ofInternetText? cs).or ((ofSpacedText? cs).or ((Moment.ofText? cs).map ofUtc))

end ZonedMoment

end EntitySql
