import EntitySql.Sql.Identifier
import EntitySql.Sql.Literal
import EntitySql.Sql.Operator
import EntitySql.Sql.Scope

/-!
# Column expressions

A column is written as its base, combined with the second operand of its operation and wrapped in
its function. The base is a raw expression, a literal, or a name with its qualifier; a field name
is written as the name of its column.
-/

namespace EntitySql

set_option autoImplicit false

namespace Column

/-- A reference with the qualifier found for it. -/
def reference (d : Dialect) (s : Scope) (c : Column) (qualifier : String) : String :=
  let qualified := if s.qualify && qualifier != "" then qualifier ++ "." else ""
  if c.isWildcard then qualified ++ "*"
  else
    match s.columnDef? qualifier c.name with
    | some column => qualified ++ d.identifier column.name
    | none => qualified ++ d.identifier c.name

/-- The raw expression, the literal or the reference. -/
def base (d : Dialect) (s : Scope) (c : Column) : Except Error String :=
  if c.raw then .ok c.name
  else
    match c.literal with
    | some v => d.literal v
    | none =>
      if c.name = "" then .ok "" else (s.qualifierOf c).map (c.reference d s)

/-- An expression as the argument of a function. -/
def applied (function : Option String) (expression : String) : String :=
  match function with
  | some f => f ++ "(" ++ expression ++ ")"
  | none => expression

/-- The expression of a column, without its label. -/
def render (d : Dialect) (s : Scope) : Column → Except Error String
  | ⟨function, qualifier, name, label, value, raw, none⟩ => do
    let a ← base d s ⟨function, qualifier, name, label, value, raw, none⟩
    return applied function a
  | ⟨function, qualifier, name, label, value, raw, some (op, other)⟩ => do
    let a ← base d s ⟨function, qualifier, name, label, value, raw, none⟩
    let b ← if op.isUnary then pure none else (render d s other).map some
    let combined ← d.operation op a b
    return applied function combined
  termination_by structural c => c

/-- The expression of a column followed by its label. -/
def renderLabeled (d : Dialect) (s : Scope) (c : Column) : Except Error String :=
  if c.label ≠ "" ∧ c.isSelectable = false then .error (.model (.nothingToSelect c.label))
  else do
    let expression ← c.render d s
    return if c.label = "" then expression else expression ++ " AS " ++ d.identifier c.label

end Column

namespace Query

/-- The wildcard of all tables is selected. -/
def selectsAll (columns : List Column) : Bool :=
  columns.any fun c => c.isWildcard && c.qualifier == ""

/-- A selected column stands for a term to order by. -/
def covers (c term : Column) : Bool :=
  c.sameExpression term || (c.isWildcard && c.qualifier == term.qualifier) ||
    (c.label != "" && term.qualifier == "" && Text.eqIgnoringCase c.label term.name)

/-- Adds the terms to order by that no selected column stands for. -/
def withTerms (columns : List Column) : List Ordered → List Column
  | [] => columns
  | term :: rest =>
    if columns.any fun c => covers c term.column then withTerms columns rest
    else withTerms (columns ++ [term.column]) rest

/-- The columns actually selected: the requested ones and those needed to order by. Everything is
selected when nothing was requested or the wildcard was. -/
def selected (columns : List Column) (orderBy : List Ordered) : List Column :=
  if columns.isEmpty || selectsAll columns then columns else withTerms columns orderBy

end Query

/-- The word of a direction. -/
def Direction.word : Direction → String
  | ascending => " ASC"
  | descending => " DESC"

/-- A term to order by. -/
def Ordered.render (d : Dialect) (s : Scope) (o : Ordered) : Except Error String :=
  (o.column.render d s).map fun expression => expression ++ o.direction.word

/-- The clause that orders rows. -/
def orderClause (d : Dialect) (s : Scope) (terms : List Ordered) : Except Error String :=
  (terms.mapM (Ordered.render d s)).map fun rendered =>
    "ORDER BY " ++ String.intercalate ", " rendered

end EntitySql
