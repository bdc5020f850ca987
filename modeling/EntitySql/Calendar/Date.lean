/-!
# Days of the calendar

A date is the number of its day, counted from 1 January 1970, in the years -9999 to 9999 of the
proleptic Gregorian calendar. Year, month and day of the month are a view of it.

**Eras.** The calendar repeats after 400 years, an era of 146097 days. Years are taken to start
on 1 March, so that a leap day is the last of its year.
-/

namespace EntitySql

set_option autoImplicit false

/-- Year, month and day of the month. -/
structure CivilDate where
  year : Int
  month : Nat
  day : Nat
deriving DecidableEq, Repr

namespace CivilDate

/-- The year has a leap day. -/
def isLeap (year : Int) : Bool := year % 4 == 0 && (year % 100 != 0 || year % 400 == 0)

/-- How many days a month has. -/
def daysInMonth (year : Int) (month : Nat) : Nat :=
  if month = 2 then if isLeap year then 29 else 28
  else if month = 4 ∨ month = 6 ∨ month = 9 ∨ month = 11 then 30
  else 31

/-- Month and day exist in the year. -/
def isValid (c : CivilDate) : Bool :=
  1 ≤ c.month && c.month ≤ 12 && 1 ≤ c.day && c.day ≤ daysInMonth c.year c.month

/-- Days in an era of 400 years. -/
def daysPerEra : Int := 146097

/-- From 1 March of year 0 to 1 January 1970. -/
def epochShift : Int := 719468

/-- The number of the day. -/
def toDays (c : CivilDate) : Int :=
  let year := if c.month ≤ 2 then c.year - 1 else c.year
  let era := year / 400
  let yearOfEra := year % 400
  let month : Int := if c.month ≤ 2 then c.month + 9 else c.month - 3
  let dayOfYear := (153 * month + 2) / 5 + (c.day - 1)
  let dayOfEra := yearOfEra * 365 + yearOfEra / 4 - yearOfEra / 100 + dayOfYear
  era * daysPerEra + dayOfEra - epochShift

/-- Year, month and day of a day number. -/
def ofDays (days : Int) : CivilDate :=
  let shifted := days + epochShift
  let era := shifted / daysPerEra
  let dayOfEra := shifted % daysPerEra
  let yearOfEra :=
    (dayOfEra - dayOfEra / 1460 + dayOfEra / 36524 - dayOfEra / 146096) / 365
  let dayOfYear := dayOfEra - (365 * yearOfEra + yearOfEra / 4 - yearOfEra / 100)
  let month := (5 * dayOfYear + 2) / 153
  let day := dayOfYear - (153 * month + 2) / 5 + 1
  let year := yearOfEra + era * 400
  { year := if month < 10 then year else year + 1
    month := (if month < 10 then month + 3 else month - 9).toNat
    day := day.toNat }

end CivilDate

/-- A day of the years -9999 to 9999. -/
structure Date where
  day : Int
  min_le : -4371587 ≤ day
  le_max : day ≤ 2932896
deriving DecidableEq, Repr

namespace Date

/-- The day of a number, if it is in range. -/
def ofDay? (day : Int) : Option Date :=
  if h : -4371587 ≤ day ∧ day ≤ 2932896 then some ⟨day, h.1, h.2⟩ else none

/-- The day of a civil date, if it exists and is in range. -/
def ofCivil? (c : CivilDate) : Option Date := if c.isValid then ofDay? c.toDays else none

/-- Year, month and day of the month. -/
def civil (d : Date) : CivilDate := .ofDays d.day

@[ext] theorem ext {a b : Date} (h : a.day = b.day) : a = b := by
  cases a; cases b; cases h; rfl

theorem ofDay?_eq_some_iff {day : Int} {d : Date} : ofDay? day = some d ↔ d.day = day := by
  unfold ofDay?
  split
  · constructor
    · intro e
      cases e
      rfl
    · rintro rfl
      rfl
  · rename_i out
    constructor
    · intro e
      cases e
    · rintro rfl
      exact absurd ⟨d.min_le, d.le_max⟩ out

@[simp] theorem ofDay?_day (d : Date) : ofDay? d.day = some d := ofDay?_eq_some_iff.2 rfl

end Date

end EntitySql
