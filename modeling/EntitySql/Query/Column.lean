import EntitySql.BitOp
import EntitySql.Error
import EntitySql.Text.Ascii

/-!
# Columns of a query

A column of a query is a reference to a column of a table, a literal, or an expression written as
it is; a function may wrap it, an operator may combine it with another column, and a label may
name the result. A reference without qualifier belongs to the only table of its query.
-/

namespace EntitySql

set_option autoImplicit false

/-- A reference, literal or expression. -/
structure Column where
  /-- The function wrapped around the column. -/
  function : Option String
  /-- The alias of the table; empty when the column is not qualified. -/
  qualifier : String
  /-- The field or column, or the expression when `raw` is set. -/
  name : String
  /-- The label of the result; empty for none. -/
  label : String
  /-- The literal, written in place. -/
  literal : Option Value
  raw : Bool
  operation : Option (BitOp × Column)
deriving Inhabited

namespace Column

/-- The empty column. -/
def empty : Column := ⟨none, "", "", "", none, false, none⟩

/-- A reference by name. -/
def ofName (name : String) : Column := { empty with name }

/-- The wildcard. -/
def all : Column := ofName "*"

/-- An expression written as it is. -/
def ofRaw (expression : String) : Column := { empty with name := expression, raw := true }

/-- A literal. -/
def ofLiteral (v : Value) : Column := { empty with literal := some v }

/-- The number of rows. -/
def countAll : Column := ofRaw "COUNT(*)"

/-- The column under a label. -/
def labeled (c : Column) (label : String) : Column := { c with label }

/-- One column for each name, labeled with the label at its place. -/
def list (names labels : List String) : Except Error (List Column) :=
  if names.length ≠ labels.length then
    .error (.model (.labelCount names.length labels.length))
  else .ok (List.zipWith (fun name label => (ofName name).labeled label) names labels)

/-- The column stands for all columns. -/
def isWildcard (c : Column) : Bool := !c.raw && c.literal.isNone && c.name == "*"

/-- The column names a column of a table. -/
def isReference (c : Column) : Bool := !c.raw && c.literal.isNone && c.name != ""

/-- The column can stand in a select list. -/
def isSelectable (c : Column) : Bool :=
  c.name != "" || c.function.isSome || c.literal.isSome || c.operation.isSome

/-- All parts of the columns are equal. -/
def equals : Column → Column → Bool
  | ⟨f, q, n, l, v, r, none⟩, ⟨f', q', n', l', v', r', none⟩ =>
    f == f' && q == q' && n == n' && l == l' && Value.agree Value.equals v v' && r == r'
  | ⟨f, q, n, l, v, r, some (op, c)⟩, ⟨f', q', n', l', v', r', some (op', c')⟩ =>
    f == f' && q == q' && n == n' && l == l' && Value.agree Value.equals v v' && r == r' &&
      op == op' && equals c c'
  | _, _ => false
  termination_by structural c => c

/-- Two optional operations agree. -/
def sameOperation : Option (BitOp × Column) → Option (BitOp × Column) → Bool :=
  Value.agree fun (op, c) (op', c') => op == op' && c.equals c'

/-- The columns are one expression, whatever their labels and the ASCII case of their names. -/
def sameExpression (a b : Column) : Bool :=
  a.function == b.function && a.qualifier == b.qualifier && Text.eqIgnoringCase a.name b.name &&
    Value.agree Value.equals a.literal b.literal && a.raw == b.raw &&
    sameOperation a.operation b.operation

end Column

/-- A direction of ordering. -/
inductive Direction where
  | ascending
  | descending
deriving DecidableEq, Repr

/-- A column to order by. -/
structure Ordered where
  column : Column
  direction : Direction

namespace Ordered

/-- Both parts of the terms are equal. -/
def equals (a b : Ordered) : Bool := a.column.equals b.column && a.direction == b.direction

end Ordered

end EntitySql
