import EntitySql.Calendar.Printer
import EntitySql.Number.Shortest
import EntitySql.Text.Quoted
import EntitySql.Value.Basic

/-!
# Values as shown in messages

A value is shown as the name of its kind around its content, `Some(...)` or `None`, followed by
what else the kind holds: precision and scale, or the prototype of the elements.
-/

namespace EntitySql

set_option autoImplicit false

/-- The name of an integer kind. -/
def IntKind.name : IntKind → String
  | int8 => "Int8"
  | int16 => "Int16"
  | int32 => "Int32"
  | int64 => "Int64"
  | uint8 => "UInt8"
  | uint16 => "UInt16"
  | uint32 => "UInt32"
  | uint64 => "UInt64"

/-- The name of a floating-point kind. -/
def FloatKind.name : FloatKind → String
  | float32 => "Float32"
  | float64 => "Float64"

/-- Shown numbers are positional from 0.0001 up to below 10000000000000000; a tie between two
shortest candidates takes the upper one. -/
def FloatLayout.shown : FloatLayout := ⟨-3, 16, false⟩

/-- A floating-point number as shown. -/
def Binary.shown {k : FloatKind} (x : Binary k) : String :=
  match x.classify with
  | .nan => "NaN"
  | .infinite negative => if negative then "-inf" else "inf"
  | .finite negative significand exponent =>
    FloatLayout.shown.finite k negative significand exponent

/-- Members between brackets. -/
def bracketed (members : List String) : String := "[" ++ String.intercalate ", " members ++ "]"

namespace Value

/-- The name of the kind. -/
def kindName : Value → String
  | null => "Null"
  | boolean _ => "Boolean"
  | int k _ => k.name
  | float k _ => k.name
  | decimal _ _ _ => "Decimal"
  | char _ => "Char"
  | varchar _ => "Varchar"
  | blob _ => "Blob"
  | date _ => "Date"
  | time _ => "Time"
  | timestamp _ => "Timestamp"
  | zoned _ => "TimestampWithTimezone"
  | uuid _ => "Uuid"
  | list _ _ => "List"
  | unknown _ => "Unknown"

/-- A content that may be absent. -/
def shownContent {α : Type} (shown : α → String) : Option α → String
  | none => "None"
  | some a => "Some(" ++ shown a ++ ")"

/-- A kind around what it holds. -/
def enclosed (kind : String) (parts : List String) : String :=
  kind ++ "(" ++ String.intercalate ", " parts ++ ")"

mutual
/-- The value as shown in messages. -/
def shown : Value → String
  | null => "Null"
  | boolean v => enclosed "Boolean" [shownContent (fun b => if b then "true" else "false") v]
  | int k v => enclosed k.name [shownContent (fun n => toString n.val) v]
  | float k v => enclosed k.name [shownContent Binary.shown v]
  | decimal v p s => enclosed "Decimal" [shownContent Decimal.toText v, toString p, toString s]
  | char v => enclosed "Char" [shownContent Text.quotedChar v]
  | varchar v => enclosed "Varchar" [shownContent Text.quoted v]
  | blob v =>
    enclosed "Blob" [shownContent (fun bytes => bracketed (bytes.map fun b => toString b.toNat)) v]
  | date v => enclosed "Date" [shownContent Date.toText v]
  | time v => enclosed "Time" [shownContent TimeOfDay.toShortText v]
  | timestamp v => enclosed "Timestamp" [shownContent Moment.toShortText v]
  | zoned v => enclosed "TimestampWithTimezone" [shownContent ZonedMoment.toShortText v]
  | uuid v => enclosed "Uuid" [shownContent Uuid.toText v]
  | list none e => enclosed "List" ["None", shown e]
  | list (some vs) e => enclosed "List" ["Some(" ++ bracketed (shownAll vs) ++ ")", shown e]
  | unknown v => enclosed "Unknown" [shownContent Text.quoted v]
  termination_by structural v => v

/-- All members of a list as shown. -/
def shownAll : List Value → List String
  | [] => []
  | v :: vs => shown v :: shownAll vs
  termination_by structural vs => vs
end

end Value

end EntitySql
