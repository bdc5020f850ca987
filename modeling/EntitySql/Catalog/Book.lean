import EntitySql.Entity.Basic
import EntitySql.Field.Type

/-!
# Books

An entity written out by hand. Its columns are taken one after the other, each looked up and
converted before the next, and both carry the number zero.
-/

namespace EntitySql.Catalog

set_option autoImplicit false

/-- A column of a field that is not further described. -/
def bookColumn (field name : String) (prototype : Value) (key : KeyRole) : ColumnDef where
  field
  name
  storage := .plain
  prototype
  nullable := false
  key
  position := 0
  charset := .utf8
  scale := none
  converter := none

/-- The value of a column that a row must have. -/
def takeColumn (r : Row) (name : String) (p : Primitive) : Except Error p.Carrier := do
  match ← r.column? name with
  | none => throw (.model (.missingColumn name))
  | some v => p.ofValue v

/-- A number and a title. -/
structure BookRecord where
  id : FixedInt .int64
  title : String

/-- Books in a library. -/
def book : Entity where
  typeName := "Book"
  table := ⟨"BOOKS", "library"⟩
  columns :=
    [bookColumn "id" "BOOK_ID" (.int .int64 none) .whole,
      bookColumn "title" "TITLE" (.varchar none) .outside]
  inherited := []
  Record := BookRecord
  toRow b := .ofPairs [("BOOK_ID", .int .int64 (some b.id)), ("TITLE", .varchar (some b.title))]
  ofRow r := do
    let id ← takeColumn r "BOOK_ID" (.int .int64)
    let title ← takeColumn r "TITLE" .text
    return ⟨id, title⟩

end EntitySql.Catalog
