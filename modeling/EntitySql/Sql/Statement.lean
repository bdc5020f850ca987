import EntitySql.Marshal.Row
import EntitySql.Sql.Paging

/-!
# Statements

Queries, counts, insertions, updates and deletions as statements: a fragment, what the rows of the
result become, and the columns selected.

**Keys.** Statements by key test every key column for equality with its value, in the order of the
schema. **Conditions** of updates and deletions must have at least one node.
-/

namespace EntitySql

set_option autoImplicit false

/-- A statement of a dialect. -/
structure Statement where
  dialect : Dialect
  body : Fragment
  shape : Shape
  columns : List Column

namespace Statement

/-- The text of the statement. -/
def sql (s : Statement) : String := s.body.sql s.dialect

/-- The parameters of the statement, in the order of their placeholders. -/
def parameters (s : Statement) : List Pair := s.body.parameters

/-- A statement that changes rows. -/
def change (d : Dialect) (body : Fragment) : Statement := ⟨d, body, .scalar, []⟩

end Statement

namespace Query

/-- The selection of a query, or of a window of its rows. -/
def compile (d : Dialect) (q : Query) (window : Option PageWindow) : Except Error Statement := do
  let s ← Scope.ofQuery q
  let body ← q.renderPaged d s (.ofWindow window (!q.orderBy.isEmpty))
  return ⟨d, body, q.shape, selected q.columns q.orderBy⟩

/-- The rows of the query are counted from a derived table. -/
def countsDerived (q : Query) : Bool := q.distinct || !q.groupBy.isEmpty

/-- The number of rows of a query. -/
def compileCount (d : Dialect) (q : Query) : Except Error Statement := do
  let s ← Scope.ofQuery q
  let body ←
    if q.countsDerived then do
      let f ← q.render d s { SelectOptions.standard with unordered := true }
      pure (.text "SELECT COUNT(*) FROM (" :: (f ++ [.text ") c_"]))
    else q.render d s { SelectOptions.standard with count := true }
  return ⟨d, body, .scalar, [Column.countAll]⟩

end Query

namespace EntitySchema

/-- A selection from the table of a schema. All columns are selected unless some are named; an
offset needs a limit. -/
def compilePaged (d : Dialect) (schema : EntitySchema) (columns : Option (List String))
    (filter : Option Condition) (orderBy : Option (List Ordered))
    (offset limit : Option UInt64) : Except Error Statement :=
  if offset.isSome && limit.isNone then .error (.model .offsetWithoutLimit)
  else
    let names := columns.getD (schema.columns.map fun c => c.name)
    let q := ((Query.ofSchema 0 schema).select (names.map Column.ofName)).addOrderBy
      (orderBy.getD [])
    { q with filter := filter.getD [] }.compile d
      (limit.map fun size => ⟨offset.getD 0, size⟩)

/-- The key columns with as many values. -/
def keyValues (schema : EntitySchema) (values : List Value) :
    Except Error (List (ColumnDef × Value)) := do
  let key ← schema.requireKey
  if key.length ≠ values.length then
    throw (.model (.keyCount schema.typeName key.length values.length))
  return key.zip values

/-- A column and the parameter it is set to or tested against. -/
def equation (d : Dialect) (name : String) (p : Pair) : Fragment :=
  [.text (d.identifier name ++ " = "), .parameter p]

/-- The test that locates a row by its key. -/
def keyCondition (d : Dialect) (schema : EntitySchema) (values : List Value) :
    Except Error Fragment := do
  let key ← schema.keyValues values
  return Fragment.separated " AND "
    (key.map fun (c, v) => equation d c.name (.forColumn v c))

/-- The selection of a row by its key. -/
def compileFind (d : Dialect) (schema : EntitySchema) (values : List Value) :
    Except Error Statement := do
  let key ← schema.keyValues values
  let filter : Condition := key.map fun (c, v) =>
    .predicate .and (.compare (.ofName c.name) .equal (.value v))
  { Query.ofSchema 0 schema with filter }.compile d none

/-- The columns of a schema for which a row has a value. -/
def present (r : Row) : List ColumnDef → Except Error (List (ColumnDef × Value))
  | [] => .ok []
  | c :: rest => do
    let v ← r.column? c.name
    let others ← present r rest
    return match v with
      | some v => (c, v) :: others
      | none => others

/-- The values of a row for columns that must have one. -/
def required (r : Row) : List ColumnDef → Except Error (List Value)
  | [] => .ok []
  | c :: rest => do
    match ← r.column? c.name with
    | none => throw (.model (.missingKeyValue c.name))
    | some v => return v :: (← required r rest)

/-- The insertion of a row. -/
def compileInsert (d : Dialect) (schema : EntitySchema) (r : Row) : Except Error Statement := do
  let values ← present r schema.columns
  if values.isEmpty then throw (.model (.nothingToInsert schema.table.name))
  let names := Fragment.separated ", " (values.map fun (c, _) => [.text (d.identifier c.name)])
  let parameters :=
    Fragment.separated ", " (values.map fun (c, v) => [.parameter (.forColumn v c)])
  return .change d <|
    .text ("INSERT INTO " ++ schemaTableName d schema.table ++ " (") ::
      (names ++ .text ") VALUES (" :: (parameters ++ [.text ")"]))

/-- One assignment; a name that the schema does not know is taken as it is. -/
def assignment (d : Dialect) (schema : EntitySchema) (name : String) (v : Value) : Fragment :=
  match schema.resolve? name with
  | some c => equation d c.name (.forColumn v c)
  | none => equation d name (.ofValue v)

/-- An update up to its condition. -/
def updateHead (d : Dialect) (schema : EntitySchema) (assignments : List (String × Value)) :
    Except Error Fragment :=
  if assignments.isEmpty then .error (.model (.nothingToUpdate schema.table.name))
  else
    .ok (.text ("UPDATE " ++ schemaTableName d schema.table ++ " SET ") ::
      Fragment.separated ", " (assignments.map fun (name, v) => assignment d schema name v))

/-- A deletion up to its condition. -/
def deleteHead (d : Dialect) (schema : EntitySchema) : Fragment :=
  [.text ("DELETE FROM " ++ schemaTableName d schema.table)]

/-- The update of a row located by its key, which is part of it. -/
def compileUpdateRow (d : Dialect) (schema : EntitySchema) (r : Row) :
    Except Error Statement := do
  let key ← schema.requireKey
  let values ← required r key
  let others ← present r (schema.columns.filter fun c => !c.isKey)
  let head ← updateHead d schema (others.map fun (c, v) => (c.name, v))
  let condition ← schema.keyCondition d values
  return .change d (head ++ .text " WHERE " :: condition)

/-- The deletion of a row located by its key. -/
def compileDeleteKey (d : Dialect) (schema : EntitySchema) (values : List Value) :
    Except Error Statement := do
  let condition ← schema.keyCondition d values
  return .change d (deleteHead d schema ++ .text " WHERE " :: condition)

/-- The update of the rows that satisfy a condition. -/
def compileUpdate (d : Dialect) (schema : EntitySchema) (assignments : List (String × Value))
    (filter : Condition) : Except Error Statement := do
  if filter.isEmpty then throw (.model .updateWithoutCondition)
  let head ← updateHead d schema assignments
  let condition ← Condition.render d (.ofSchema schema) filter
  return .change d (head ++ .text " WHERE " :: condition)

/-- The deletion of the rows that satisfy a condition. -/
def compileDelete (d : Dialect) (schema : EntitySchema) (filter : Condition) :
    Except Error Statement := do
  if filter.isEmpty then throw (.model .deleteWithoutCondition)
  let condition ← Condition.render d (.ofSchema schema) filter
  return .change d (deleteHead d schema ++ .text " WHERE " :: condition)

end EntitySchema

end EntitySql
