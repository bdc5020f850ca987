import EntitySql.Conformance.Conditions
import EntitySql.Conformance.RoundTrips
import EntitySql.Conformance.Windows

/-!
# The conformance suite

What every dialect must satisfy: the trials of queries, conditions, windows and round trips, one
after the other.
-/

namespace EntitySql.Conformance

set_option autoImplicit false

/-- All trials. -/
def suite (d : Dialect) : Trial Unit := do
  queryTrials d
  conditionTrials d
  windowTrials d
  roundTripTrials d

/-- The calls of the suite with their outcomes, unless it stops. -/
def exchanges (d : Dialect) : Except Stop (List Exchange) := ((suite d).run []).map (·.2)

end EntitySql.Conformance
