import EntitySql.Query.Basic

/-!
# Tables in scope

While a query is written, its own tables and those of the queries around it are in scope. No
table may hide another one on the way outwards: their aliases differ.

**Qualifiers.** A reference without qualifier belongs to the only table of the query. Statements
on a single table without alias do not qualify their columns at all, nor do the queries inside
their conditions.
-/

namespace EntitySql

set_option autoImplicit false

/-- A table as seen from a query. -/
structure VisibleTable where
  aliasName : String
  schema : Option EntitySchema

/-- What is visible from the query being written. -/
structure Scope where
  tables : List VisibleTable
  /-- The tables of the enclosing queries, the nearest first. -/
  outer : List VisibleTable
  /-- The query has one table. -/
  single : Bool
  /-- Columns are written with their qualifiers. -/
  qualify : Bool
  endOfDay : Bool

/-- The table as seen from its query. -/
def Table.visible (t : Table) : VisibleTable := ⟨t.aliasName, t.schema?⟩

namespace Scope

/-- The first alias that occurs again before its place, given the aliases before. -/
def firstRepeated (before : List String) : List String → Option String
  | [] => none
  | name :: rest =>
    if name != "" && before.contains name then some name
    else firstRepeated (name :: before) rest

/-- The first alias that is among others. -/
def firstHiding (others names : List String) : Option String :=
  names.find? fun name => name != "" && others.contains name

/-- The scope of a query inside the given outer tables. -/
def enter (qualify : Bool) (outer : List VisibleTable) (q : Query) : Except Error Scope :=
  if q.table.isNone then .error (.model .noTable)
  else
    let tables := q.tables.map Table.visible
    let names := tables.map VisibleTable.aliasName
    match firstRepeated [] names with
    | some name => .error (.aliasCollision name)
    | none =>
      match firstHiding (outer.map VisibleTable.aliasName) names with
      | some name => .error (.aliasCollision name)
      | none =>
        .ok
          { tables, outer
            single := q.isSingleTable
            qualify
            endOfDay := q.endOfDay }

/-- The scope of a query that stands alone. -/
def ofQuery (q : Query) : Except Error Scope := enter true [] q

/-- The scope of a query inside this one. -/
def inside (s : Scope) (q : Query) : Except Error Scope := enter s.qualify (s.tables ++ s.outer) q

/-- The scope of a statement on the table of a schema. -/
def ofSchema (schema : EntitySchema) : Scope where
  tables := [⟨"", some schema⟩]
  outer := []
  single := true
  qualify := false
  endOfDay := false

/-- The alias that unqualified columns get; `none` when there is more than one table. -/
def defaultAlias? (s : Scope) : Option String :=
  if s.single then s.tables.head?.map VisibleTable.aliasName else none

/-- The schema of the nearest table of an alias. -/
def schemaOf? (s : Scope) (aliasName : String) : Option EntitySchema :=
  ((s.tables ++ s.outer).find? fun t => t.aliasName == aliasName).bind VisibleTable.schema

/-- The descriptor of a column of the table of an alias. -/
def columnDef? (s : Scope) (aliasName name : String) : Option ColumnDef :=
  (s.schemaOf? aliasName).bind fun schema => schema.resolve? name

/-- The alias that qualifies a column; empty when nothing does. -/
def qualifierOf (s : Scope) (c : Column) : Except Error String :=
  if c.qualifier ≠ "" then .ok c.qualifier
  else
    match s.defaultAlias? with
    | some name => .ok name
    | none =>
      if c.isWildcard || !c.isReference then .ok ""
      else .error (.model (.unqualifiedColumn c.name))

/-- The descriptor of the column referred to, when it belongs to an entity. -/
def columnDefOf (s : Scope) (c : Column) : Except Error (Option ColumnDef) :=
  if !c.isReference || c.isWildcard then .ok none
  else (s.qualifierOf c).map fun name => s.columnDef? name c.name

end Scope

end EntitySql
