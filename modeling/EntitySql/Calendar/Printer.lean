import EntitySql.Calendar.Moment

/-!
# Dates and times as text

**Padding.** Numbers are filled with zeros to a width. A year can be filled in two ways: its
digits to four with the sign before them, or sign and digits together to four.

**Fractions.** A fraction of a second has at least one digit and no zeros at its end.
-/

namespace EntitySql

set_option autoImplicit false

/-- A number filled with zeros to a width. -/
def padded (width n : Nat) : String :=
  let digits := Nat.toDigits 10 n
  String.ofList (List.replicate (width - digits.length) '0' ++ digits)

namespace CivilDate

/-- The sign of a year before the four digits of its magnitude. -/
def signedYear (year : Int) : String :=
  (if year < 0 then "-" else "") ++ padded 4 year.natAbs

/-- A year of four characters, its sign included. -/
def compactYear (year : Int) : String :=
  if year < 0 then "-" ++ padded 3 year.natAbs else padded 4 year.natAbs

/-- Month and day after the year. -/
def monthAndDay (c : CivilDate) : String := "-" ++ padded 2 c.month ++ "-" ++ padded 2 c.day

end CivilDate

namespace Date

/-- The date with a signed year of four digits. -/
def toText (d : Date) : String :=
  let c := d.civil
  CivilDate.signedYear c.year ++ c.monthAndDay

/-- The date with a year of four characters. -/
def toCompactText (d : Date) : String :=
  let c := d.civil
  CivilDate.compactYear c.year ++ c.monthAndDay

end Date

namespace TimeOfDay

/-- Hour, minute and second, of two digits each. -/
def clockText (t : TimeOfDay) : String :=
  padded 2 t.hour ++ ":" ++ padded 2 t.minute ++ ":" ++ padded 2 t.second

/-- The nanoseconds of the second without zeros at the end, at least one digit. -/
def fractionText (t : TimeOfDay) : String :=
  let digits := (padded 9 t.nano).toList
  let significant := (digits.reverse.dropWhile (· == '0')).reverse
  String.ofList (if significant.isEmpty then ['0'] else significant)

/-- The clock with its fraction. -/
def toText (t : TimeOfDay) : String := t.clockText ++ "." ++ t.fractionText

/-- The clock with its fraction, the hour without a leading zero. -/
def toShortText (t : TimeOfDay) : String :=
  toString t.hour ++ ":" ++ padded 2 t.minute ++ ":" ++ padded 2 t.second ++ "." ++
    t.fractionText

end TimeOfDay

namespace Moment

/-- Date and time, the hour without a leading zero. -/
def toShortText (m : Moment) : String := m.date.toText ++ " " ++ m.time.toShortText

end Moment

namespace ZonedMoment

/-- The offset as hours, minutes and seconds after its sign. -/
def offsetText (z : ZonedMoment) : String :=
  let seconds := z.offset.natAbs
  (if z.offset < 0 then "-" else "+") ++ padded 2 (seconds / 3600) ++ ":" ++
    padded 2 (seconds / 60 % 60) ++ ":" ++ padded 2 (seconds % 60)

/-- The local moment and its offset. -/
def toShortText (z : ZonedMoment) : String := z.wall.toShortText ++ " " ++ z.offsetText

end ZonedMoment

end EntitySql
