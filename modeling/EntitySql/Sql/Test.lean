import EntitySql.Sql.Expression
import EntitySql.Sql.Fragment

/-!
# Tests

The predicates that look at a column: comparisons, patterns, membership, null and empty tests, and
ranges. Values become parameters bound after the column when it belongs to an entity.

**Null.** Equality with null is a null test; an order between null and anything is an error.

**End of day.** Where a scope asks for it, the day of a `<` or `<=` comparison stands for its last
millisecond.

**Dropped ranges.** A range without bounds writes nothing; with one bound it is an error.
-/

namespace EntitySql

set_option autoImplicit false

namespace Comparison

/-- The symbol of the comparison. -/
def symbol : Comparison → String
  | equal => "="
  | notEqual => "<>"
  | less => "<"
  | lessEqual => "<="
  | more => ">"
  | moreEqual => ">="

/-- The comparison bounds its left side from above. -/
def boundsAbove : Comparison → Bool
  | less | lessEqual => true
  | _ => false

end Comparison

/-- A date, or the day of a moment, moved to its last millisecond; other values stay. -/
def shiftEndOfDay : Value → Value
  | .date (some d) => .timestamp (some ⟨d, .lastMilli⟩)
  | .timestamp (some m) => .timestamp (some { m with time := .lastMilli })
  | .zoned (some z) => .zoned (some (z.withTime .lastMilli))
  | v => v

namespace PatternPlace

/-- The pattern that finds a part at the place. -/
def pattern (place : PatternPlace) (part : String) : String :=
  match place with
  | anywhere => "%" ++ part ++ "%"
  | start => part ++ "%"
  | finish => "%" ++ part

end PatternPlace

/-- The text of a value that can be a part of a pattern. -/
def patternText (v : Value) : Except Error String :=
  match v with
  | .varchar (some s) | .unknown (some s) => .ok s
  | .char (some c) => .ok (String.singleton c)
  | v => .error (.ofValue v "LIKE pattern")

/-- The word that negates a test. -/
def negation (negated : Bool) : String := if negated then "NOT " else ""

namespace Dialect

/-- The test for an empty text or null. One dialect keeps empty texts as null. -/
def emptyTest (d : Dialect) (left : String) (negated : Bool) : String :=
  match d with
  | oracle => left ++ " IS " ++ negation negated ++ "NULL"
  | _ =>
    if negated then "(" ++ left ++ " <> '' AND " ++ left ++ " IS NOT NULL)"
    else "(" ++ left ++ " = '' OR " ++ left ++ " IS NULL)"

end Dialect

/-- The left side of a test: the descriptor of its column, if known, and its expression. -/
structure LeftSide where
  column : Option ColumnDef
  expression : String

namespace LeftSide

/-- The left side of a test on a column. -/
def ofColumn (d : Dialect) (s : Scope) (c : Column) : Except Error LeftSide := do
  let column ← s.columnDefOf c
  let expression ← c.render d s
  return ⟨column, expression⟩

/-- The parameter for a value compared with the column. -/
def parameter (l : LeftSide) (v : Value) : Piece := .parameter (Pair.forColumn? v l.column)

end LeftSide

/-- A comparison with a value that is null. -/
def nullTest (left : String) (comparison : Comparison) : Except Error Fragment :=
  match comparison with
  | .equal => .ok [.text (left ++ " IS NULL")]
  | .notEqual => .ok [.text (left ++ " IS NOT NULL")]
  | _ => .error (.model (.nullComparison left comparison.symbol))

/-- A comparison. -/
def compareTest (d : Dialect) (s : Scope) (l : LeftSide) (comparison : Comparison) :
    Operand → Except Error Fragment
  | .value v =>
    if v.isNull then nullTest l.expression comparison
    else
      let v := if s.endOfDay && comparison.boundsAbove then shiftEndOfDay v else v
      .ok [.text (l.expression ++ " " ++ comparison.symbol ++ " "), l.parameter v]
  | .column other =>
    (other.render d s).map fun right =>
      [.text (l.expression ++ " " ++ comparison.symbol ++ " " ++ right)]

/-- A test against a pattern. -/
def likeTest (l : LeftSide) (place : PatternPlace) (negated : Bool) (part : Value) :
    Except Error Fragment :=
  (patternText part).map fun text =>
    [.text (l.expression ++ " " ++ negation negated ++ "LIKE "),
      .parameter (Pair.ofValue (.varchar (some (place.pattern text))))]

/-- A test for membership; nothing is among no values. -/
def amongTest (l : LeftSide) (negated : Bool) (values : List Value) : Fragment :=
  if values.isEmpty then [.text (if negated then "1=1" else "1=0")]
  else
    .text (l.expression ++ " " ++ negation negated ++ "IN (") ::
      (Fragment.separated ", " (values.map fun v => [l.parameter v]) ++ [.text ")"])

/-- A test for a range. -/
def betweenTest (l : LeftSide) (low high : Value) : Except Error Fragment :=
  match low.isNull, high.isNull with
  | true, true => .ok []
  | false, false =>
    .ok [.text (l.expression ++ " BETWEEN "), l.parameter low, .text " AND ", l.parameter high]
  | _, _ => .error (.model (.missingBound l.expression))

end EntitySql
