import EntitySql.Error
import EntitySql.Schema.Storage

/-!
# Column descriptors

A descriptor joins the name of a field with the name and the storage of its column. Its prototype
says which kind of value the field takes.

**Converters.** A column may have a converter, which sees every value read for the column first
and may replace it. The converter is told everything else about the column, so that part of the
descriptor is a structure of its own.
-/

namespace EntitySql

set_option autoImplicit false

/-- Everything a column declares but its converter. -/
structure ColumnTraits where
  field : String
  name : String
  storage : Storage
  prototype : Value
  nullable : Bool
  key : KeyRole
  /-- The place among the columns of the entity, inherited ones first. -/
  position : Nat
  charset : Text.Charset
  /-- How many decimal digits numbers are rounded to. -/
  scale : Option Nat

/-- What a column does with a value read for it: replace it, or leave it to the usual decoding. -/
abbrev Converter := Value → ColumnTraits → Except Error (Option Value)

/-- The descriptor of a column. -/
structure ColumnDef extends ColumnTraits where
  converter : Option Converter

namespace ColumnDef

/-- The column is in the primary key. -/
def isKey (c : ColumnDef) : Bool := c.key != .outside

/-- The declared scale, else the scale of a decimal prototype that is constrained. -/
def effectiveScale (c : ColumnDef) : Option Nat :=
  match c.scale, c.prototype with
  | some scale, _ => some scale
  | none, .decimal _ precision scale =>
    if precision = 0 ∧ scale = 0 then none else some scale
  | none, _ => none

end ColumnDef

end EntitySql
