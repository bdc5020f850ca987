import EntitySql.Conformance.Queries

/-!
# Trials of conditions

Lists without members, nulls, patterns, bounds that are missing, and days that stand for their
end.
-/

namespace EntitySql.Conformance

set_option autoImplicit false

/-- The query of users under a condition. -/
def usersWhere (filter : Condition) : Trial Query := do
  return { Query.ofSchema 0 (← require userSchema) with filter }

/-- Compiles the query of users under a condition. -/
def selectWhere (d : Dialect) (filter : Condition) : Trial Statement := do
  select d (← usersWhere filter) none

/-- A test whether a column is among no values is decided. -/
def emptyListTrial (d : Dialect) : Trial Unit := do
  let s ← selectWhere d [also (.among (.ofName "id") false [])]
  ensure "nothing is among no values" (s.sql.endsWith "WHERE 1=0")
  ensure "there are no parameters" (values s).isEmpty
  let s ← selectWhere d [also (.among (.ofName "id") true [])]
  ensure "everything is outside no values" (s.sql.endsWith "WHERE 1=1")

/-- Equality with null is a test for null. -/
def nullTrial (d : Dialect) : Trial Unit := do
  let s ← selectWhere d [also (test (.ofName "city") .equal (.varchar none))]
  ensure "the test is for null" (s.sql.endsWith "IS NULL")
  ensure "there are no parameters" (values s).isEmpty

/-- Patterns carry their wildcards in the parameter. -/
def patternTrial (d : Dialect) : Trial Unit := do
  let s ← selectWhere d
    [also (.like (.ofName "name") .start false (varchar "Jo")),
      .predicate .or (.like (.ofName "name") .finish false (varchar "k"))]
  ensure "the wildcards are in the parameters"
    (Value.allEqual (values s) [varchar "Jo%", varchar "%k"])

/-- A range needs both bounds; one without any says nothing. -/
def boundsTrial (d : Dialect) : Trial Unit := do
  let s ← selectWhere d [also (.between (.ofName "age") (int32 18) (int32 65))]
  ensure "both bounds are parameters" (Value.allEqual (values s) [int32 18, int32 65])
  let s ← selectWhere d
    [also (.between (.ofName "age") (.int .int32 none) (.int .int32 none)),
      also (.isNull (.ofName "name") true)]
  ensure "a range without bounds is not written" (!occurs "BETWEEN" s.sql)
  ensure "no connective is left over" (!occurs "WHERE  AND" s.sql)
  ensure "there are no parameters" (values s).isEmpty
  let q ← usersWhere [also (.between (.ofName "age") (int32 18) (.int .int32 none))]
  ensure "a range with one bound is refused" <|
    match ← note .select .statement (q.compile d none) with
    | .error (.model _) => true
    | _ => false

/-- The value is a moment in the last thousandth of its day. -/
def isLastMilli : Value → Bool
  | .timestamp (some m) =>
    m.time.hour == 23 && m.time.minute == 59 && m.time.nano / 1000000 == 999
  | _ => false

/-- A day stands for its end when the query says so. -/
def endOfDayTrial (d : Dialect) : Trial Unit := do
  let q ← usersWhere [also (test (.ofName "id") .lessEqual (sample .date "2024-03-15"))]
  let s ← select d { q with endOfDay := true } none
  ensure "the day stands for its end" ((values s).head?.any isLastMilli)

/-- Compiling a condition twice gives one statement. -/
def nestingTrial (d : Dialect) : Trial Unit := do
  let filter : Condition :=
    [also (test (.ofName "age") .more (int32 18)),
      .group .orAnd [livesIn "NY", .isEmpty (.ofName "name") false],
      .nested .and [also (.among (.ofName "id") false [int64 1, int64 2, int64 3])]]
  let s ← selectWhere d filter
  let again ← selectWhere d filter
  ensure "compiling is deterministic" (sameStatement s again)

/-- The trials of conditions. -/
def conditionTrials (d : Dialect) : Trial Unit := do
  emptyListTrial d
  nullTrial d
  patternTrial d
  boundsTrial d
  endOfDayTrial d
  nestingTrial d

end EntitySql.Conformance
