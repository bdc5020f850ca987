import EntitySql.Marshal.Decode
import EntitySql.Marshal.Row
import EntitySql.Schema.EntitySchema
import EntitySql.Text.Words

/-!
# Hydrating rows

A driver row becomes a row of an entity, a map or a single value.

**Entity rows** keep the values whose label names a column of the schema, in the order of the row.

**Maps** hold each value under the camel-case, upper-case and lower-case form of its label and
under the label itself; a later key replaces an equal one before it. The label of the row number
that paging adds is left out.

**Scalars** are the first value of the row.
-/

namespace EntitySql

set_option autoImplicit false

/-- The label of the row number that paging adds. -/
def rowNumberLabel : String := "rn_"

/-- The label is the one of the row number. -/
def isRowNumber (label : String) : Bool := Text.eqIgnoringCase label rowNumberLabel

/-- The labeled values of a row of the schema. -/
def hydratePairs (s : EntitySchema) :
    List (String × DriverValue) → Except Error (List (String × Value))
  | [] => .ok []
  | (label, raw) :: rest =>
    match s.resolve? label with
    | none => hydratePairs s rest
    | some c => do
      let v ← decode raw c
      let others ← hydratePairs s rest
      return (c.name, v) :: others

/-- Decodes the columns of a row known to the schema. -/
def hydrateRow (s : EntitySchema) (r : RawRow) : Except Error Row :=
  (hydratePairs s r.pairs).map Row.ofPairs

/-- Values under keys, in increasing order of the keys and without repetition. -/
structure RowMap where
  entries : List (String × Value)

namespace RowMap

/-- Puts a value under a key into ordered entries. -/
def put (key : String) (v : Value) : List (String × Value) → List (String × Value)
  | [] => [(key, v)]
  | (k, w) :: rest =>
    if k = key then (key, v) :: rest
    else if k < key then (k, w) :: put key v rest
    else (key, v) :: (k, w) :: rest

/-- The map with a value under a key, in place of an earlier one. -/
def insert (m : RowMap) (key : String) (v : Value) : RowMap := ⟨put key v m.entries⟩

/-- The value under a key. -/
def get? (m : RowMap) (key : String) : Option Value :=
  (m.entries.find? fun entry => entry.1 == key).map Prod.snd

/-- The keys a label gives rise to, in the order they are inserted; the label itself is last. -/
def keysOf (label : String) : List String :=
  [Text.camelCase label, Text.toUpper label, Text.toLower label, label]

/-- The map with the value of a label under all its keys. -/
def publish (m : RowMap) (label : String) (v : Value) : RowMap :=
  (keysOf label).foldl (fun m key => m.insert key v) m

end RowMap

/-- Adds labeled driver values to a map. -/
def hydrateInto (m : RowMap) : List (String × DriverValue) → Except Error RowMap
  | [] => .ok m
  | (label, raw) :: rest =>
    if isRowNumber label then hydrateInto m rest
    else do
      let v ← decodeUntyped raw label
      hydrateInto (m.publish label v) rest

/-- Every value of a row under the forms of its label. -/
def hydrateMap (r : RawRow) : Except Error RowMap := hydrateInto ⟨[]⟩ r.pairs

/-- The first value of a row; null when there is none. -/
def hydrateScalar (r : RawRow) : Except Error Value :=
  match r.pairs with
  | [] => .ok .null
  | (label, raw) :: _ => decodeUntyped raw label

end EntitySql
