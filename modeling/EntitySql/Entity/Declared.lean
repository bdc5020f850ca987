import EntitySql.Entity.Basic
import EntitySql.Field.Type
import EntitySql.Text.Words

/-!
# Declared entities

A declared entity is given by its members: fields kept in columns, contained entities whose
columns it inherits, and fields that are not kept. Its records are tuples of the members, and rows
are read and written member by member.

**Reading a row.** The values of the row are taken in their order. Each goes to the first column
of its name, without regard to ASCII case, that has none yet, and is converted at once; labels
that name no such column are passed over. Afterwards the columns are looked through in the order
of declaration: one without a value gets its empty value if it may be null and fails otherwise.
Contained entities read the whole row for themselves, after all columns.

**Writing a row.** Contained entities come first, then the columns.
-/

namespace EntitySql

set_option autoImplicit false

/-- A field kept in a column. -/
structure ColumnField where
  field : String
  type : FieldType
  name : String
  storage : Storage
  key : KeyRole
  charset : Text.Charset
  scale : Option Nat
  /-- How many digits a decimal has; only decimals declare it. -/
  precision : Option Nat
  converter : Option Converter

namespace ColumnField

/-- The column of a field unless another name is declared: the words of the field in upper case,
without an underscore that starts it. -/
def defaultName (field : String) : String :=
  Text.upperSnakeCase <|
    match field.toList with
    | '_' :: rest => String.ofList rest
    | _ => field

/-- A field about which nothing but its type is declared. -/
def plain (field : String) (type : FieldType) : ColumnField where
  field
  type
  name := defaultName field
  storage := .plain
  key := .outside
  charset := .utf8
  scale := none
  precision := none
  converter := none

/-- The kind of the values of the column. -/
def prototype (c : ColumnField) : Value :=
  match c.type.empty, c.precision with
  | .decimal _ _ _, some precision => .decimal none precision (c.scale.getD 0)
  | kind, _ => kind

/-- The column may be null. -/
def nullable (c : ColumnField) : Bool := c.type.nullable && c.key == .outside

/-- The descriptor of the column at a place of its entity. -/
def toColumnDef (c : ColumnField) (position : Nat) : ColumnDef where
  field := c.field
  name := c.name
  storage := c.storage
  prototype := c.prototype
  nullable := c.nullable
  key := c.key
  position
  charset := c.charset
  scale := c.scale
  converter := c.converter

end ColumnField

mutual
/-- An entity given by its members. -/
structure Declared where
  typeName : String
  table : TableRef
  members : Members

/-- The members of an entity, in the order of declaration. -/
inductive Members where
  | nil
  | column (c : ColumnField) (rest : Members)
  /-- A contained entity. -/
  | inherit (field : String) (base : Declared) (rest : Members)
  /-- A field that is not kept; it has its default after reading. -/
  | skip (field : String) (type : Type) (default : type) (rest : Members)
end

mutual
/-- The records of an entity. -/
def Declared.Record : Declared → Type
  | ⟨_, _, members⟩ => members.Record
  termination_by structural d => d

/-- Tuples of members. -/
def Members.Record : Members → Type
  | .nil => Unit
  | .column c rest => c.type.Carrier × rest.Record
  | .inherit _ base rest => base.Record × rest.Record
  | .skip _ type _ rest => type × rest.Record
  termination_by structural ms => ms
end

namespace Members

/-- The fields kept in columns of the entity itself. -/
def columnFields : Members → List ColumnField
  | nil => []
  | column c rest => c :: rest.columnFields
  | inherit _ _ rest => rest.columnFields
  | skip _ _ _ rest => rest.columnFields

/-- Descriptors of fields, numbered from `n` on. -/
def descriptors (n : Nat) : List ColumnField → List ColumnDef
  | [] => []
  | c :: rest => c.toColumnDef n :: descriptors (n + 1) rest

/-- The descriptors of the columns of the entity itself. -/
def columns (ms : Members) : List ColumnDef := descriptors 0 ms.columnFields

end Members

mutual
/-- The columns an entity inherits. -/
def Declared.inherited : Declared → List ColumnDef
  | ⟨_, _, members⟩ => members.inherited
  termination_by structural d => d

/-- The columns of contained entities: what each inherits, then its own. -/
def Members.inherited : Members → List ColumnDef
  | .nil => []
  | .column _ rest => rest.inherited
  | .inherit _ base rest => base.inherited ++ base.members.columns ++ rest.inherited
  | .skip _ _ _ rest => rest.inherited
  termination_by structural ms => ms
end

/-! ## Writing -/

/-- The values of the columns of the entity itself. -/
def Members.ownPairs : (ms : Members) → ms.Record → List (String × Value)
  | .nil, _ => []
  | .column c rest, (x, others) => (c.name, c.type.toValue x) :: rest.ownPairs others
  | .inherit _ _ rest, (_, others) => rest.ownPairs others
  | .skip _ _ _ rest, (_, others) => rest.ownPairs others

mutual
/-- Every column of a record with its value. -/
def Declared.pairs : (d : Declared) → d.Record → List (String × Value)
  | ⟨_, _, members⟩, r => members.inheritedPairs r ++ members.ownPairs r
  termination_by structural d => d

/-- The values of inherited columns. -/
def Members.inheritedPairs : (ms : Members) → ms.Record → List (String × Value)
  | .nil, _ => []
  | .column _ rest, (_, others) => rest.inheritedPairs others
  | .inherit _ base rest, (b, others) => base.pairs b ++ rest.inheritedPairs others
  | .skip _ _ _ rest, (_, others) => rest.inheritedPairs others
  termination_by structural ms => ms
end

/-! ## Reading -/

namespace Members

/-- What a row has given the columns so far. -/
def Held : Members → Type
  | nil => Unit
  | column c rest => Option c.type.Carrier × rest.Held
  | inherit _ _ rest => rest.Held
  | skip _ _ _ rest => rest.Held

/-- The members kept in columns of the entity itself. -/
def Own : Members → Type
  | nil => Unit
  | column c rest => c.type.Carrier × rest.Own
  | inherit _ _ rest => rest.Own
  | skip _ _ _ rest => rest.Own

/-- No column has a value. -/
def nothingHeld : (ms : Members) → ms.Held
  | nil => ()
  | column _ rest => (none, rest.nothingHeld)
  | inherit _ _ rest => rest.nothingHeld
  | skip _ _ _ rest => rest.nothingHeld

/-- Gives a labeled value to the first column of that name that has none. -/
def hold (label : String) (v : Value) : (ms : Members) → ms.Held → Except Error ms.Held
  | nil, held => .ok held
  | column c rest, (held, others) =>
    if held.isNone && Text.eqIgnoringCase label c.name then
      (c.type.ofValue v).map fun x => (some x, others)
    else (hold label v rest others).map fun others => (held, others)
  | inherit _ _ rest, held => hold label v rest held
  | skip _ _ _ rest, held => hold label v rest held

/-- Gives out the values of a row in their order. -/
def holdAll (ms : Members) (held : ms.Held) : List (String × Value) → Except Error ms.Held
  | [] => .ok held
  | (label, v) :: rest => do
    let held ← ms.hold label v held
    ms.holdAll held rest

/-- The value of a column that the row has no value for. -/
def missing (typeName : String) (c : ColumnField) : Except Error c.type.Carrier :=
  if c.nullable then c.type.ofValue c.type.empty
  else .error (.model (.columnNotInRow c.name typeName))

/-- The members kept in columns, from what the row has given them. -/
def settle (typeName : String) : (ms : Members) → ms.Held → Except Error ms.Own
  | nil, _ => .ok ()
  | column c rest, (held, others) => do
    let x ← match held with
      | some x => pure x
      | none => missing typeName c
    let own ← settle typeName rest others
    return (x, own)
  | inherit _ _ rest, held => settle typeName rest held
  | skip _ _ _ rest, held => settle typeName rest held

end Members

mutual
/-- The record of a row. -/
def Declared.ofRow : (d : Declared) → Row → Except Error d.Record
  | ⟨typeName, _, members⟩, row => do
    let held ← members.holdAll members.nothingHeld row.pairs
    let own ← members.settle typeName held
    members.assemble own row
  termination_by structural d => d

/-- Completes the members kept in columns by the contained entities and by defaults. -/
def Members.assemble : (ms : Members) → ms.Own → Row → Except Error ms.Record
  | .nil, _, _ => .ok ()
  | .column _ rest, (x, own), row => (rest.assemble own row).map fun others => (x, others)
  | .inherit _ base rest, own, row => do
    let b ← base.ofRow row
    let others ← rest.assemble own row
    return (b, others)
  | .skip _ _ default rest, own, row => (rest.assemble own row).map fun others => (default, others)
  termination_by structural ms => ms
end

namespace Declared

/-- The row of a record. -/
def toRow (d : Declared) (r : d.Record) : Row := .ofPairs (d.pairs r)

/-- The entity of a declaration. -/
def toEntity (d : Declared) : Entity where
  typeName := d.typeName
  table := d.table
  columns := d.members.columns
  inherited := d.inherited
  Record := d.Record
  toRow := d.toRow
  ofRow := d.ofRow

end Declared

end EntitySql
