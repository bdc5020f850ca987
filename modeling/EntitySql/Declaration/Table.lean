import EntitySql.Declaration.Field

/-!
# Declared entities as tables

The mapping of an entity is made of the mappings of its fields, the name of its table and its
primary key.

**Primary keys.** The key is declared on fields or on the entity, never on both. On the entity it
is a column, told by its name without regard to ASCII case, a field, told by its path, or a tuple
of these. A key of one member is the whole key, the members of a longer one are parts of it.
-/

namespace EntitySql

set_option autoImplicit false

open Code

/-- How the fields of a declaration are written. -/
inductive DeclarationShape where
  | named
  | tuple
  | unit
  deriving DecidableEq, Repr

/-- The declaration of an entity. -/
structure EntityDeclaration where
  name : String
  shape : DeclarationShape
  /-- What follows the name: the parameters between angle marks, if there are any. -/
  parameters : List Token
  attributes : List Attribute
  fields : List FieldDeclaration
  deriving Repr

/-- What is declared about an entity. -/
structure EntityMapping where
  typeName : String
  table : TableRef
  fields : List FieldMapping

namespace EntityMapping

/-- The fields of a role. -/
def withRole (m : EntityMapping) (role : FieldRole) : List FieldMapping :=
  m.fields.filter fun f => f.role == role

/-- The fields kept in columns. -/
def columns (m : EntityMapping) : List FieldMapping := m.withRole .column

end EntityMapping

/-! ## Primary keys -/

/-- The place of the first column that satisfies a predicate. -/
def columnPlace? (fields : List FieldMapping) (p : FieldMapping → Bool) : Option Nat :=
  fields.findIdx? fun f => f.role == .column && p f

/-- The path tells the field: by its name alone, after `Self`, or after the name of the entity. -/
def tellsField (typeName : String) (path : CodePath) (f : FieldMapping) : Bool :=
  path.agreesWith ["Self", f.field] || path.agreesWith [typeName, f.field]

mutual
/-- The places of the fields that a key names. -/
def keyPlaces (typeName : String) (fields : List FieldMapping) :
    EntryValue → Except KeyFault (List Nat)
  | .text name =>
    match columnPlace? fields fun f => Text.eqIgnoringCase f.name name with
    | some place => .ok [place]
    | none => .error (.noColumn name)
  | .path path =>
    if path.isExpression then
      match columnPlace? fields (tellsField typeName path) with
      | some place => .ok [place]
      | none => .error (.noField path)
    else .error .notColumns
  | .tuple members => do
    let places ← memberPlaces typeName fields members
    if places.all fun p => p.length == 1 then return places.flatten else throw .notOneColumn
  | .literal _ | .other => .error .notColumns
  termination_by structural v => v

/-- The places that each member of a tuple names. -/
def memberPlaces (typeName : String) (fields : List FieldMapping) :
    List EntryValue → Except KeyFault (List (List Nat))
  | [] => .ok []
  | v :: rest => do
    let first ← keyPlaces typeName fields v
    let others ← memberPlaces typeName fields rest
    return first :: others
  termination_by structural vs => vs
end

/-- What the attributes of an entity have declared so far. -/
structure TableEntries where
  table : TableRef
  /-- The places of the fields of the key; none when no key is declared. -/
  key : List Nat

namespace TableEntries

/-- Applies an entry. A second key is refused when the first one has members. -/
def apply (typeName : String) (fields : List FieldMapping) (t : TableEntries)
    (entry : AttributeEntry) : Except Misuse TableEntries :=
  match TableKey.ofPath? entry.path, entry.value with
  | none, _ => .error (.unknownEntry entry.path)
  | some .name, some (.text name) => .ok { t with table := { t.table with name } }
  | some .schema, some (.text schema) => .ok { t with table := { t.table with schema } }
  | some .primaryKey, none => .error (.primaryKey .noValue)
  | some .primaryKey, some value =>
    match keyPlaces typeName fields value with
    | .error fault => .error (.primaryKey fault)
    | .ok key => if t.key.isEmpty then .ok { t with key } else .error .primaryKeyTwice
  | some key, _ => .error (.tableEntry key)

/-- Applies the entries of an attribute, if it concerns the mapping. -/
def applyAttribute (typeName : String) (fields : List FieldMapping) (t : TableEntries)
    (a : Attribute) : Except Misuse TableEntries :=
  if a.isMapping then
    match a.entries? with
    | none => .error .tableNotAList
    | some entries => entries.foldlM (apply typeName fields) t
  else .ok t

end TableEntries

/-- Puts the fields at the places into the key; they are then never null. -/
def markKey (places : List Nat) (fields : List FieldMapping) : List FieldMapping :=
  let role : KeyRole := if places.length = 1 then .whole else .part
  fields.mapIdx fun i f =>
    if places.contains i then { f with key := role, nullable := false } else f

/-- Settles a key that is declared on fields: several fields are parts of it. -/
def settleKey (fields : List FieldMapping) : List FieldMapping :=
  if 1 < (fields.filter fun f => f.key != .outside).length then
    fields.map fun f => if f.key != .outside then { f with key := .part } else f
  else fields

/-- The fields with their part in the key, given the places of a key declared on the entity. -/
def applyKey (places : List Nat) (fields : List FieldMapping) : Except Misuse (List FieldMapping) :=
  if places.isEmpty then .ok (settleKey fields)
  else
    match fields.find? fun f => f.key != .outside with
    | some f => .error (.primaryKeyOnBoth f.name)
    | none => .ok (markKey places fields)

/-- The table of an entity unless another name is declared: the words of its name in upper case,
less one underscore in front of them. -/
def defaultTable (typeName : String) : String :=
  match (Text.upperSnakeCase typeName).toList with
  | '_' :: rest => String.ofList rest
  | cs => String.ofList cs

namespace EntityDeclaration

/-- The declaration has parameters between its angle marks. -/
def isParametric (d : EntityDeclaration) : Bool :=
  match d.parameters with
  | [] | [_, .mark ">"] => false
  | _ => true

/-- The mapping of an entity. -/
def mapping (d : EntityDeclaration) : Except DeclarationFault EntityMapping := do
  if d.shape ≠ .named then throw (.refused .unnamedFields)
  if d.isParametric then throw (.refused .parameters)
  let fields ← d.fields.mapM FieldDeclaration.mapping
  let declared : TableEntries := ⟨⟨defaultTable d.name, ""⟩, []⟩
  let entries ←
    (d.attributes.foldlM (TableEntries.applyAttribute d.name fields) declared).mapError .misused
  let fields ← (applyKey entries.key fields).mapError .misused
  return ⟨d.name, entries.table, fields⟩

end EntityDeclaration

end EntitySql
