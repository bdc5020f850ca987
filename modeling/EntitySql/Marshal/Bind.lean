import EntitySql.Dialect
import EntitySql.Field.Primitive
import EntitySql.Marshal.LargeObject
import EntitySql.Marshal.Pair

/-!
# Binding parameters

**Nulls** become nulls of the kind their storage needs.

**Dates and times** follow the storage: milliseconds since 1970, a moment of UTC, or an instant.
Text for such a column is read as a value of its kind first.

**Large objects** are streams of the bytes of a text or of plain bytes.

**Numbers** are rounded to the scale of the column. One dialect binds floating-point numbers of a
declared scale as decimals.
-/

namespace EntitySql

set_option autoImplicit false

/-- The decimal of a floating-point value, rounded to a scale if one is given. -/
def decimalOfFloat (v : Value) (scale : Option Nat) : Except Error Decimal := do
  let d ← Primitive.orFail (.ofValue v Primitive.decimal.name) <|
    match v with
    | .float _ (some x) => Decimal.ofBinary? x
    | _ => none
  return match scale with
    | some places => d.round places
    | none => d

/-- Floating-point numbers of the general form: rounded to the scale if there is one. What no
decimal can hold stays as it is. -/
def bindFloatRounded (v : Value) (scale : Option Nat) : Value :=
  match v, scale with
  | .float .float32 (some x), some places =>
    match Decimal.ofBinary? x with
    | some d => .float .float32 (some ((d.round places).toBinary .float32))
    | none => v
  | .float .float64 (some x), some places => .float .float64 (some (x.roundPlaces places))
  | _, _ => v

/-- A floating-point parameter. -/
def bindFloat (dialect : Dialect) (v : Value) (scale : Option Nat) : Except Error DriverValue :=
  match dialect, scale with
  | .oracle, some _ => (decimalOfFloat v scale).map fun d => .scalar (Primitive.decimal.toValue d)
  | .oracle, none => .ok (.scalar v)
  | _, _ => .ok (.scalar (bindFloatRounded v scale))

/-- The kind of a bound null. -/
def nullKind (storage : Storage) (kind v : Value) : Value :=
  match storage with
  | .longDate => .int .int64 none
  | .dateTime => .timestamp none
  | .timestamp => .zoned none
  | .largeCharacter => .varchar none
  | .largeBinary | .largeObjectBinary => .blob none
  | .plain =>
    match kind with
    | .null => v.prototype
    | kind => kind.prototype

/-- The primitive type that text for a temporal kind is read as. -/
def temporalType : Value → Primitive
  | .date _ => .date
  | .time _ => .time
  | .timestamp _ => .moment
  | _ => .zoned

/-- Text for a temporal kind, read as a value of the kind; other values stay. -/
def readTemporal (v kind : Value) : Except Error Value :=
  if v.isTextual then
    let text := match v with
      | .char (some c) => String.singleton c
      | v => v.text?.getD ""
    match (temporalType kind).parse (Text.trim text) with
    | .ok member => .ok ((temporalType kind).toValue member)
    | .error (.abort cause) => .error (.abort cause)
    | .error _ => .error (.ofText text kind.shown)
  else .ok v

/-- The moment of UTC of a value on the line of time. -/
def instantOf? (v : Value) : Option (Except Error Moment) :=
  match v with
  | .date (some d) => some (.ok (.atMidnight d))
  | .timestamp (some m) => some (.ok m)
  | .zoned (some z) => some (Primitive.utc z)
  | _ => none

/-- Whole milliseconds since 1970, the rest cut off towards 1970. -/
def millisOf (m : Moment) : Int := m.toNanos.tdiv nanosPerMilli

/-- A date, time or moment, or text for one. -/
def bindTemporal (v : Value) (storage : Storage) (kind : Value) : Except Error DriverValue := do
  let v ← readTemporal v kind
  match v with
  | .time (some t) =>
    match storage with
    | .plain => return .scalar v
    | .longDate => return .scalar (.int .int64 (some (.clamp .int64 t.millis)))
    | _ => throw (.ofValue v storage.name)
  | _ =>
    match instantOf? v with
    | none => throw (.ofValue v storage.name)
    | some found =>
      let instant ← found
      match storage with
      | .longDate => return .scalar (.int .int64 (some (.clamp .int64 (millisOf instant))))
      | .dateTime => return .scalar (.timestamp (some instant))
      | .timestamp => return .scalar (.zoned (some (.ofUtc instant)))
      | _ => return .scalar v

/-- The bytes of a text in a character set. -/
def encodeText (charset : Text.Charset) (s : String) : Except Error (List UInt8) :=
  Primitive.orFail (.ofText s charset.label) (charset.encode? s)

/-- The content of a large object. -/
def bytesOf (v : Value) (storage : Storage) (charset : Text.Charset) :
    Except Error (List UInt8) :=
  match v with
  | .varchar (some s) | .unknown (some s) => encodeText charset s
  | .char (some c) => encodeText charset (String.singleton c)
  | .blob (some b) => .ok b
  | v => .error (.ofValue v storage.name)

/-- The driver value of a parameter. -/
def bind (dialect : Dialect) (p : Pair) : Except Error DriverValue :=
  if p.value.isNull then .ok (.null (nullKind p.storage p.kind p.value))
  else if p.value.isTemporal || (p.value.isTextual && p.kind.isTemporal) then
    bindTemporal p.value p.storage p.kind
  else if p.storage.isLargeObject then do
    let bytes ← bytesOf p.value p.storage p.charset
    let stream := LargeObject.ofBytes bytes
    return if p.storage = .largeCharacter then .characters stream else .binary stream
  else
    match p.value with
    | .float k x => bindFloat dialect (.float k x) p.scale
    | .decimal (some d) precision declared =>
      let scale := p.scale.getD declared
      .ok (.scalar (.decimal (some (d.round scale)) precision scale))
    | v => .ok (.scalar v)

end EntitySql
