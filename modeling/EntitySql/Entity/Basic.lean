import EntitySql.Marshal.Hydrate
import EntitySql.Schema.EntitySchema

/-!
# Entities

An entity is a type of records together with the table that keeps them: its columns, those it
inherits from the entities it contains, and the ways from a record to a row and back.

**Schemas.** The schema of an entity has the inherited columns first. Its columns are numbered by
their place in the schema, whatever number they carry in their own entity.
-/

namespace EntitySql

set_option autoImplicit false

/-- A type of records kept in a table. -/
structure Entity where
  typeName : String
  table : TableRef
  /-- The columns the entity declares itself. -/
  columns : List ColumnDef
  /-- The columns of the entities it contains, each after the columns that entity inherits. -/
  inherited : List ColumnDef
  Record : Type
  /-- Every column of a record with its value. -/
  toRow : Record → Row
  /-- The record of a row. -/
  ofRow : Row → Except Error Record

/-- Columns numbered from `n` on. -/
def numbered (n : Nat) : List ColumnDef → List ColumnDef
  | [] => []
  | c :: rest => { c with position := n } :: numbered (n + 1) rest

namespace Entity

/-- The schema of the entity, unless it has no columns or repeats one. -/
def schema (e : Entity) : Except Error EntitySchema :=
  EntitySchema.ofColumns e.typeName e.table (numbered 0 (e.inherited ++ e.columns))

/-- The record of a driver row. -/
def hydrate (e : Entity) (r : RawRow) : Except Error e.Record := do
  let s ← e.schema
  let row ← hydrateRow s r
  e.ofRow row

/-- The row of the record of a row: every column, in the order of the entity. -/
def rebuild (e : Entity) (r : Row) : Except Error Row := (e.ofRow r).map e.toRow

end Entity

end EntitySql
