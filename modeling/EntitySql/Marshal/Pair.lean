import EntitySql.Schema.ColumnDef

/-!
# Parameters

A parameter is a value together with what is needed to bind it: the storage, the kind, the scale
and the character set of the column it is compared with or written to.
-/

namespace EntitySql

set_option autoImplicit false

/-- A parameter of a statement. -/
structure Pair where
  value : Value
  storage : Storage
  kind : Value
  scale : Option Nat
  charset : Text.Charset

namespace Pair

/-- A value that belongs to no column: its own kind in plain storage. -/
def ofValue (v : Value) : Pair := ⟨v, .plain, v.prototype, none, .utf8⟩

/-- A value for a column. -/
def forColumn (v : Value) (c : ColumnDef) : Pair :=
  ⟨v, c.storage, c.prototype, c.effectiveScale, c.charset⟩

/-- A value for a column if one is known. -/
def forColumn? (v : Value) : Option ColumnDef → Pair
  | some c => forColumn v c
  | none => ofValue v

end Pair

end EntitySql
