import EntitySql.Declaration.Fault
import EntitySql.Entity.Declared
import EntitySql.Text.Charset

/-!
# Declared fields

A declared field has a name, a type and attributes. Its mapping says how it is kept: in a column,
as a contained entity whose columns are inherited, or not at all.

Entries are applied in their order, so the last one for a key counts. The type is looked at only
when the field is kept in a column, after all entries.
-/

namespace EntitySql

set_option autoImplicit false

open Code

/-- A field of a declaration. -/
structure FieldDeclaration where
  name : String
  type : TypeExpr
  attributes : List Attribute
  deriving Repr

/-- How a field takes part in its entity. -/
inductive FieldRole where
  | column
  /-- A contained entity, whose columns come before those of the entity. -/
  | inherit
  /-- The field is not kept. -/
  | skip
  deriving DecidableEq, Repr

namespace FieldRole

/-- The name of the role. -/
def name : FieldRole → String
  | column => "Column"
  | inherit => "Inherit"
  | skip => "Skip"

end FieldRole

/-- What is declared about a field. -/
structure FieldMapping where
  field : String
  type : TypeExpr
  role : FieldRole
  /-- The name of the column. -/
  name : String
  /-- The kind of the values of the column. -/
  prototype : Value
  nullable : Bool
  storage : Storage
  charset : Text.Charset
  scale : Option Nat
  precision : Option Nat
  /-- The function that sees the values of the column first. -/
  converter : Option CodePath
  key : KeyRole

/-- A literal that is a number of at most eight bits. -/
def smallNumber? (written : String) : Option Nat :=
  match written.toNat? with
  | some n => if written.toList.all Char.isDigit && n < 256 then some n else none
  | none => none

namespace FieldMapping

/-- The mapping of a field about which nothing is declared yet. -/
def ofDeclaration (d : FieldDeclaration) : FieldMapping where
  field := d.name
  type := d.type
  role := .column
  name := ColumnField.defaultName d.name
  prototype := .null
  nullable := false
  storage := .plain
  charset := .utf8
  scale := none
  precision := none
  converter := none
  key := .outside

/-- Applies an entry, if it is written in the form of its key. -/
def set? (m : FieldMapping) : FieldKey → Option EntryValue → Option FieldMapping
  | .name, some (.text name) => some { m with name }
  | .primaryKey, none => some { m with key := .whole }
  | .storage, some (.text name) => (Storage.ofName? name).map fun storage => { m with storage }
  | .charset, some (.text label) =>
    (Text.Charset.ofLabel? label).map fun charset => { m with charset }
  | .scale, some (.literal n) => (smallNumber? n).map fun scale => { m with scale := some scale }
  | .precision, some (.literal n) =>
    (smallNumber? n).map fun precision => { m with precision := some precision }
  | .converter, some (.path path) => some { m with converter := some path }
  | .inherit, none => some { m with role := .inherit }
  | .skip, none => some { m with role := .skip }
  | _, _ => none

/-- Applies an entry. -/
def apply (m : FieldMapping) (entry : AttributeEntry) : Except Misuse FieldMapping :=
  match FieldKey.ofPath? entry.path with
  | none => .error (.unknownEntry entry.path)
  | some key =>
    match m.set? key entry.value with
    | some m => .ok m
    | none => .error (.fieldEntry key)

/-- Applies the entries of an attribute, if it concerns the mapping. -/
def applyAttribute (m : FieldMapping) (a : Attribute) : Except Misuse FieldMapping :=
  if a.isMapping then
    match a.entries? with
    | none => .error .fieldNotAList
    | some entries => entries.foldlM apply m
  else .ok m

/-- Adds what the type says. Only decimals have a precision, and a column of the key is never
null. -/
def complete (m : FieldMapping) : Except Refusal FieldMapping := do
  let kind ← m.type.kind.mapError .type
  let prototype ← match kind.prototype, m.precision with
    | .decimal _ _ _, some precision => .ok (.decimal none precision (m.scale.getD 0))
    | _, some _ => .error .precisionOutsideDecimal
    | prototype, none => .ok prototype
  return { m with prototype, nullable := kind.nullable && m.key == .outside }

end FieldMapping

namespace FieldDeclaration

/-- The mapping of a field. -/
def mapping (d : FieldDeclaration) : Except DeclarationFault FieldMapping := do
  let m ← (d.attributes.foldlM FieldMapping.applyAttribute (.ofDeclaration d)).mapError .misused
  if m.role = .column then m.complete.mapError .refused else return m

end FieldDeclaration

end EntitySql
