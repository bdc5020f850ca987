import EntitySql.Declaration.Attribute
import EntitySql.Declaration.Kind

/-!
# Declarations that are not accepted

There are two ways to fail. A declaration is refused when it cannot describe an entity at all; an
attribute is misused when its entries are unknown, have values of the wrong form, or contradict
each other.
-/

namespace EntitySql

set_option autoImplicit false

open Code

/-- A declaration that cannot describe an entity. -/
inductive Refusal where
  | unnamedFields
  | parameters
  | type (fault : TypeRefusal)
  | precisionOutsideDecimal
  deriving DecidableEq, Repr

namespace Refusal

/-- The text of the refusal. -/
def message : Refusal → String
  | unnamedFields => "Entity can be derived only on structs with named fields"
  | parameters => "Entity cannot be derived on generic structs"
  | type fault => fault.message
  | precisionOutsideDecimal => "`precision` can only be declared on decimal fields"

end Refusal

/-- What an entry declares about a field. -/
inductive FieldKey where
  | name
  | primaryKey
  | storage
  | charset
  | scale
  | precision
  | converter
  | inherit
  | skip
  deriving DecidableEq, Repr

/-- What an entry declares about an entity. -/
inductive TableKey where
  | name
  | schema
  | primaryKey
  deriving DecidableEq, Repr

/-- How an entry with a key is written, and a remark about its values. -/
structure EntryForm where
  key : String
  sample : String
  remark : String := ""

namespace FieldKey

/-- All keys of fields. -/
def all : List FieldKey :=
  [name, primaryKey, storage, charset, scale, precision, converter, inherit, skip]

/-- How the entries of a field are written. -/
def form : FieldKey → EntryForm
  | name => { key := "name", sample := "name = \"MY_COLUMN\"" }
  | primaryKey => { key := "primary_key", sample := "primary_key" }
  | storage =>
    { key := "storage", sample := "storage = \"long_date\""
      remark := ", accepted values are plain, long_date, datetime, timestamp, large_binary, " ++
        "large_character, large_object_binary" }
  | charset => { key := "encoding", sample := "encoding = \"UTF-16LE\"" }
  | scale => { key := "scale", sample := "scale = 2" }
  | precision => { key := "precision", sample := "precision = 10" }
  | converter => { key := "converter", sample := "converter = path::to::function" }
  | inherit => { key := "inherit", sample := "inherit" }
  | skip => { key := "skip", sample := "skip" }

/-- The key that a path is. -/
def ofPath? (p : CodePath) : Option FieldKey :=
  p.name?.bind fun name => all.find? fun k => k.form.key == name

end FieldKey

namespace TableKey

/-- All keys of entities. -/
def all : List TableKey := [name, schema, primaryKey]

/-- How the entries of an entity are written. -/
def form : TableKey → EntryForm
  | name => { key := "name", sample := "name = \"MY_TABLE\"" }
  | schema => { key := "schema", sample := "schema = \"my_schema\"" }
  | primaryKey => { key := "primary_key", sample := "primary_key = (\"K1\", Self::k2, ..)" }

/-- The key that a path is. -/
def ofPath? (p : CodePath) : Option TableKey :=
  p.name?.bind fun name => all.find? fun k => k.form.key == name

end TableKey

/-- A primary key that names no columns. -/
inductive KeyFault where
  | noValue
  | noColumn (name : String)
  | noField (path : CodePath)
  /-- A member of a tuple is not exactly one column. -/
  | notOneColumn
  | notColumns
  deriving DecidableEq, Repr

namespace KeyFault

/-- The text of the fault. -/
def message : KeyFault → String
  | noValue => "expected `=`"
  | noColumn name => "Column `" ++ name ++ "` does not exist in the table"
  | noField path => "Field `" ++ compact path.tokens ++ "` does not exist in the entity"
  | notOneColumn =>
    "Fields list inside tuple must either be a string literal column name or a column reference path"
  | notColumns => "Expected a column name, a field path or a tuple of them"

end KeyFault

/-- An attribute that is misused. -/
inductive Misuse where
  | fieldNotAList
  | tableNotAList
  | unknownEntry (path : CodePath)
  | fieldEntry (key : FieldKey)
  | tableEntry (key : TableKey)
  | primaryKey (fault : KeyFault)
  | primaryKeyTwice
  /-- A field is declared to be the key, by its column, and the table has one too. -/
  | primaryKeyOnBoth (column : String)
  deriving DecidableEq, Repr

namespace Misuse

/-- The advice for an entry that is not written in its form. -/
def advice (form : EntryForm) : String :=
  "Error while parsing `" ++ form.key ++ "`, use it like: `#[tabula(" ++ form.sample ++ ")]`" ++
    form.remark

/-- The text of the misuse. -/
def message : Misuse → String
  | fieldNotAList =>
    "Error while parsing `tabula`, use it like: `#[tabula(attribute = value, ...)]`"
  | tableNotAList =>
    "Error while parsing `tabula`, use it like: `#[tabula(attribute = value, ..)]`"
  | unknownEntry path => "Unknown attribute `" ++ compact path.tokens ++ "` inside tabula macro"
  | fieldEntry key => advice key.form
  | tableEntry key => advice key.form
  | primaryKey fault => advice TableKey.primaryKey.form ++ ": " ++ fault.message
  | primaryKeyTwice => "Primary key attribute can appear just once on a table"
  | primaryKeyOnBoth column =>
    "Column `" ++ column ++
      "` cannot be declared as a primary key while the table also specifies one"

end Misuse

/-- Why a declaration is not accepted. -/
inductive DeclarationFault where
  | refused (refusal : Refusal)
  | misused (misuse : Misuse)
  deriving DecidableEq, Repr

namespace DeclarationFault

/-- The text of the fault. -/
def message : DeclarationFault → String
  | refused refusal => refusal.message
  | misused misuse => misuse.message

end DeclarationFault

end EntitySql
