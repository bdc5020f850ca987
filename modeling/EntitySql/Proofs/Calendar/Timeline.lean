import EntitySql.Value.Basic

/-!
# Values on the line of time

A date or time has a place on a line of nanoseconds: a time of day counts them from midnight, all
others from the start of 1970. What is without a zone is placed as if it were in UTC, a date at the
start of its day; a moment with a zone is placed by its instant, so moments at one place are equal
whatever their zones.
-/

namespace EntitySql

set_option autoImplicit false

namespace Value

/-- The place of a date or time on the line of nanoseconds. -/
def nanos? : Value → Option Int
  | date (some d) => some (Moment.atMidnight d).toNanos
  | time (some t) => some t.nanos
  | timestamp (some m) => some m.toNanos
  | zoned (some z) => some z.instant
  | _ => none

/-- What has a place is a date or time with content. -/
theorem isTemporal_of_nanos? {v : Value} {n : Int} (place : v.nanos? = some n) :
    v.isTemporal = true ∧ v.isNull = false := by
  cases v with
  | date content => cases content <;> first | exact ⟨rfl, rfl⟩ | cases place
  | time content => cases content <;> first | exact ⟨rfl, rfl⟩ | cases place
  | timestamp content => cases content <;> first | exact ⟨rfl, rfl⟩ | cases place
  | zoned content => cases content <;> first | exact ⟨rfl, rfl⟩ | cases place
  | _ => cases place

end Value

end EntitySql
