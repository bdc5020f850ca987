import EntitySql.Marshal.LargeObject
import EntitySql.Text.Ascii

/-!
# Rows

A row pairs labels with values: decoded values, or values as a driver returned them. Labels and
values are lists of their own; where they differ in length only the common part is read as pairs.
-/

namespace EntitySql

set_option autoImplicit false

/-- Decoded values labeled with the names of their columns. -/
structure Row where
  labels : List String
  values : List Value
deriving Inhabited

namespace Row

/-- Labels with their values. -/
def pairs (r : Row) : List (String × Value) := r.labels.zip r.values

/-- The row of labeled values. -/
def ofPairs (pairs : List (String × Value)) : Row := ⟨pairs.map Prod.fst, pairs.map Prod.snd⟩

/-- The value of the first label that is the name, without regard to ASCII case. A label without
a value aborts. -/
def column? (r : Row) (name : String) : Except Error (Option Value) :=
  match r.labels.findIdx? fun l => Text.eqIgnoringCase l name with
  | none => .ok none
  | some i =>
    match r.values[i]? with
    | some v => .ok (some v)
    | none => .error (.abort .missingCell)

end Row

/-- A row as a driver returned it. -/
structure RawRow where
  labels : List String
  values : List DriverValue

namespace RawRow

/-- Labels with their values. -/
def pairs (r : RawRow) : List (String × DriverValue) := r.labels.zip r.values

/-- The row of plain values. -/
def ofValues (labels : List String) (values : List Value) : RawRow :=
  ⟨labels, values.map DriverValue.ofValue⟩

/-- The row as shown in messages. -/
def shown (r : RawRow) : String :=
  "RawRow \x7b labels: " ++ bracketed (r.labels.map Text.quoted) ++ ", values: " ++
    bracketed (r.values.map DriverValue.shown) ++ " \x7d"

end RawRow

end EntitySql
