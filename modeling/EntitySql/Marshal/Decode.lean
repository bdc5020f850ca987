import EntitySql.Field.Primitive
import EntitySql.Marshal.LargeObject
import EntitySql.Schema.ColumnDef

/-!
# Decoding driver values

**Streams** are drained first; a failure names the column. **Converters** see the value next.
**Nulls** become the null of the column. What is left is coerced to the kind of the prototype.

**Dates stored as milliseconds** arrive as numbers of any kind or as their text. A time of day is
the remainder of a day; other kinds are reached by way of the instant.
-/

namespace EntitySql

set_option autoImplicit false

/-- The bytes of a stream read for a column. -/
def drainBytes (o : LargeObject) (column : String) : Except Error (List UInt8) :=
  match o.drain with
  | .ok bytes => .ok bytes
  | .error (.inl cause) => .error (.abort cause)
  | .error (.inr fault) => .error (.decode column (.bytes fault))

/-- The text of a stream read for a column. -/
def drainText (o : LargeObject) (charset : Text.Charset) (column : String) :
    Except Error String :=
  match o.drain with
  | .error (.inl cause) => .error (.abort cause)
  | .error (.inr fault) => .error (.decode column (.unreadText charset fault))
  | .ok bytes =>
    match charset.decode bytes with
    | .ok s => .ok s
    | .error fault => .error (.decode column (.malformedText charset fault))

/-- Converts by way of a primitive type. -/
def coerceVia (p : Primitive) (v : Value) : Except Error Value := (p.ofValue v).map p.toValue

/-- Converts a value to the kind of a prototype. -/
def coerce : (prototype : Value) → Value → Except Error Value
  | prototype, v =>
    if v.isNull then .ok prototype.prototype
    else
      match prototype with
      | .null | .unknown _ => .ok v
      | .boolean _ => coerceVia .boolean v
      | .int k _ => coerceVia (.int k) v
      | .float k _ => coerceVia (.float k) v
      | .decimal _ precision scale =>
        (Primitive.decimalOfValue v).map fun d =>
          if precision = 0 ∧ scale = 0 then Primitive.decimal.toValue d
          else .decimal (some (d.round scale)) precision scale
      | .char _ => coerceVia .char v
      | .varchar _ => coerceVia .text v
      | .blob _ => coerceVia .bytes v
      | .date _ => coerceVia .date v
      | .time _ => coerceVia .time v
      | .timestamp _ => coerceVia .moment v
      | .zoned _ => coerceVia .zoned v
      | .uuid _ => coerceVia .uuid v
      | .list content element =>
        match v with
        | .list (some vs) _ =>
          (vs.mapM fun v => coerce element v).map fun vs => .list (some vs) element
        | v => .error (.ofValue v (Value.list content element).shown)
  termination_by structural prototype => prototype

/-- What a value says about milliseconds: their number, nothing, or a failure. -/
def millisOfValue (v : Value) : Except Error (Option Int) :=
  match v with
  | .int _ _ => (Primitive.intOfValue .int64 v).map fun n => some n.val
  | .decimal (some d) _ _ =>
    match FixedInt.ofInt? .int64 d.truncated with
    | some n => .ok (some n.val)
    | none => .error (.ofValue v (Primitive.int .int64).name)
  | .float _ (some x) =>
    match x.classify with
    | .nan => .ok (some 0)
    | .infinite negative =>
      .ok (some (if negative then IntKind.int64.min else IntKind.int64.max))
    | .finite _ _ _ => .ok ((x.truncated?).map fun n => (FixedInt.clamp .int64 n).val)
  | .varchar (some s) | .unknown (some s) =>
    match (Primitive.int .int64).parse (Text.trim s) with
    | .ok n => .ok (some n.val)
    | .error _ => .ok none
  | _ => .ok none

/-- Rebuilds a value that is stored as milliseconds since 1970. -/
def decodeLongDate (v prototype : Value) : Except Error Value := do
  match ← millisOfValue v with
  | none => coerce prototype v
  | some millis =>
    match prototype with
    | .time _ => return .time (some (.ofNanosMod (millis % millisPerDay * nanosPerMilli)))
    | _ =>
      match Moment.ofNanos? (millis * nanosPerMilli) with
      | none => throw (.ofValue v Primitive.zoned.name)
      | some m =>
        match prototype with
        | .int .int64 _ | .null => return .int .int64 (some (.clamp .int64 millis))
        | _ => coerce prototype (.zoned (some (.ofUtc m)))

/-- The value a driver value stands for, its streams drained. -/
def received (raw : DriverValue) (c : ColumnDef) : Except Error Value :=
  match raw with
  | .null _ => .ok .null
  | .scalar v => .ok v
  | .characters o => (drainText o c.charset c.name).map fun s => .varchar (some s)
  | .binary o =>
    if c.prototype.isTextual then
      (drainText o c.charset c.name).map fun s => .varchar (some s)
    else (drainBytes o c.name).map fun b => .blob (some b)

/-- The replacement of a value by the converter of its column, if there is one. -/
def converted (v : Value) (c : ColumnDef) : Except Error (Option Value) :=
  match c.converter with
  | some convert => convert v c.toColumnTraits
  | none => .ok none

/-- Decodes a driver value into the kind of its column. -/
def decode (raw : DriverValue) (c : ColumnDef) : Except Error Value := do
  let v ← received raw c
  match ← converted v c with
  | some replaced => return replaced
  | none =>
    if v.isNull then return c.prototype.prototype
    else if c.storage = .longDate then decodeLongDate v c.prototype
    else coerce c.prototype v

/-- Decodes a driver value without a column: streams become text or bytes, nulls keep their
kind. -/
def decodeUntyped (raw : DriverValue) (label : String) : Except Error Value :=
  match raw with
  | .null v => .ok v.prototype
  | .scalar v => .ok v
  | .characters o => (drainText o .utf8 label).map fun s => .varchar (some s)
  | .binary o => (drainBytes o label).map fun b => .blob (some b)

end EntitySql
