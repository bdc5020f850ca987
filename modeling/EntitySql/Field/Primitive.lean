import EntitySql.Calendar.Reading
import EntitySql.Error
import EntitySql.Number.Exchange
import EntitySql.Number.Reading
import EntitySql.Text.Alphanumeric
import EntitySql.Text.Ascii
import EntitySql.Text.Bytes

/-!
# Primitive types of entity fields

A field of an entity has a type of its own; the primitive ones are listed here. A primitive type
has a carrier, an empty value, a value for each member of the carrier, and three ways back:

* `ofValue` converts a value of any kind, as far as that is possible;
* `scan` reads a member at the start of a text and leaves the rest;
* `parse` reads a whole text.

**Text in values.** Text is parsed where the carrier is not text itself; the blanks around it are
not looked at, except for characters and bytes.

**Instants.** A zoned moment becomes a date or a moment by way of UTC, where it may fall out of
the calendar; that aborts the conversion.
-/

namespace EntitySql

set_option autoImplicit false

/-- The primitive types of fields. -/
inductive Primitive where
  | boolean
  | int (kind : IntKind)
  | float (kind : FloatKind)
  | char
  | text
  | bytes
  | decimal
  | date
  | time
  | moment
  | zoned
  | uuid
deriving DecidableEq, Repr

namespace Primitive

/-- The members of a primitive type. -/
abbrev Carrier : Primitive → Type
  | boolean => Bool
  | int k => FixedInt k
  | float k => Binary k
  | char => Char
  | text => String
  | bytes => List UInt8
  | decimal => Decimal
  | date => Date
  | time => TimeOfDay
  | moment => Moment
  | zoned => ZonedMoment
  | uuid => Uuid

/-- The name of an integer type. -/
def intName : IntKind → String
  | .int8 => "i8"
  | .int16 => "i16"
  | .int32 => "i32"
  | .int64 => "i64"
  | .uint8 => "u8"
  | .uint16 => "u16"
  | .uint32 => "u32"
  | .uint64 => "u64"

/-- The name of a floating-point type. -/
def floatName : FloatKind → String
  | .float32 => "f32"
  | .float64 => "f64"

/-- The full name of the type. -/
def name : Primitive → String
  | boolean => "bool"
  | int k => intName k
  | float k => floatName k
  | char => "char"
  | text => "alloc::string::String"
  | bytes => "alloc::boxed::Box<[u8]>"
  | decimal => "rust_decimal::decimal::Decimal"
  | date => "time::date::Date"
  | time => "time::time::Time"
  | moment => "time::plain_date_time::PlainDateTime"
  | zoned => "time::offset_date_time::OffsetDateTime"
  | uuid => "uuid::Uuid"

/-- The null of the type, which is also the prototype of its columns. -/
def empty : Primitive → Value
  | boolean => .boolean none
  | int k => .int k none
  | float k => .float k none
  | char => .char none
  | text => .varchar none
  | bytes => .blob none
  | decimal => .decimal none 0 0
  | date => .date none
  | time => .time none
  | moment => .timestamp none
  | zoned => .zoned none
  | uuid => .uuid none

/-- The value of a member. A decimal carries its own scale. -/
def toValue : (p : Primitive) → p.Carrier → Value
  | boolean, b => .boolean (some b)
  | int k, n => .int k (some n)
  | float k, x => .float k (some x)
  | char, c => .char (some c)
  | text, s => .varchar (some s)
  | bytes, b => .blob (some b)
  | decimal, d => .decimal (some d) 0 d.scale
  | date, d => .date (some d)
  | time, t => .time (some t)
  | moment, m => .timestamp (some m)
  | zoned, z => .zoned (some z)
  | uuid, u => .uuid (some u)

/-! ## Reading text -/

/-- A word of letters, digits and underscores that means true or false. -/
def readBoolean (cs : List Char) : Option (Bool × List Char) :=
  let inWord := fun c => Text.isAlphanumeric c || c == '_'
  let word := Text.lowerAscii (String.ofList (cs.takeWhile inWord))
  let rest := cs.dropWhile inWord
  if word = "true" ∨ word = "t" ∨ word = "1" then some (true, rest)
  else if word = "false" ∨ word = "f" ∨ word = "0" then some (false, rest)
  else none

/-- Bytes as hexadecimal digits, after an optional `\x`. -/
def readBytes (cs : List Char) : Option (List UInt8 × List Char) := do
  let digits := match cs with
    | '\\' :: 'x' :: rest | '\\' :: 'X' :: rest => rest
    | _ => cs
  let bytes ← Text.bytesOfHex? (digits.takeWhile Text.isHexDigit)
  return (bytes, digits.dropWhile Text.isHexDigit)

/-- A character that goes on in a decimal number: a digit or a point. -/
def inDecimal (c : Char) : Bool := c.isDigit || c == '.'

/-- The characters of a decimal number at the start of a text, and what follows them. -/
def spanDecimal (cs : List Char) : List Char × List Char :=
  match cs with
  | [] => ([], [])
  | c :: rest =>
    if inDecimal c || c == '-' || c == '+' then
      (c :: rest.takeWhile inDecimal, rest.dropWhile inDecimal)
    else ([], cs)

/-- A decimal number at the start of a text. -/
def readDecimal (cs : List Char) : Option (Decimal × List Char) :=
  let (number, rest) := spanDecimal cs
  (Decimal.ofChars? number).map fun d => (d, rest)

/-- A member at the start of a text, and what follows it. Dates, times and identifiers are read
only as whole texts. -/
def scan : (p : Primitive) → List Char → Option (p.Carrier × List Char)
  | boolean, cs => readBoolean cs
  | int k, cs => FixedInt.read? k cs
  | float k, cs => Binary.read? k cs
  | char, c :: rest => some (c, rest)
  | char, [] => none
  | text, cs => some (String.ofList cs, [])
  | bytes, cs => readBytes cs
  | decimal, cs => readDecimal cs
  | _, _ => none

/-- Bytes look at the first two bytes of the text, which must not end inside a character. -/
def cuts : Primitive → List Char → Bool
  | bytes, cs => Text.cutsCharacter 2 cs
  | _, _ => false

/-- Reads a member at the start of a text; the text left over is returned. -/
def extract (p : Primitive) (s : String) : Except Error (p.Carrier × String) :=
  if p.cuts s.toList then .error (.abort .cutCharacter)
  else
    match p.scan s.toList with
    | some (member, rest) => .ok (member, String.ofList rest)
    | none => .error (.ofText s p.name)

/-- The reading of a whole text for types that have no reading of a part. -/
def readWhole : (p : Primitive) → List Char → Option p.Carrier
  | date, cs => (Date.ofText? cs).or ((Moment.ofDateTimeText? cs).map Moment.date)
  | time, cs => TimeOfDay.ofText? cs
  | moment, cs => Moment.ofText? cs
  | zoned, cs => ZonedMoment.ofText? cs
  | uuid, cs => Uuid.ofChars? cs
  | p, cs =>
    match p.scan cs with
    | some (member, []) => some member
    | _ => none

/-- The type a failed reading names: a zoned moment was last tried as a moment without zone. -/
def parsedName : Primitive → String
  | zoned => moment.name
  | p => p.name

/-- Reads a whole text. -/
def parse (p : Primitive) (s : String) : Except Error p.Carrier :=
  if p.cuts s.toList then .error (.abort .cutCharacter)
  else
    match p.readWhole s.toList with
    | some member => .ok member
    | none => .error (.ofText s p.parsedName)

/-! ## Converting values -/

/-- A result that may be missing, with the failure to report then. -/
def orFail {α : Type} (error : Error) : Option α → Except Error α
  | some a => .ok a
  | none => .error error

/-- The moment of UTC of an instant. -/
def utc (z : ZonedMoment) : Except Error Moment := orFail (.abort .instantOutOfRange) z.utc?

/-- Numbers are true unless they are zero. -/
def booleanOfValue : Value → Except Error Bool
  | .boolean (some b) => .ok b
  | .int _ (some n) => .ok (n.val != 0)
  | .decimal (some d) _ _ => .ok (!d.isZero)
  | .varchar (some s) | .unknown (some s) => boolean.parse (Text.trim s)
  | v => .error (.ofValue v boolean.name)

/-- Integers in range, and decimals that are such integers. -/
def intOfValue (k : IntKind) : Value → Except Error (FixedInt k)
  | .int l (some n) => orFail (.ofValue (.int l (some n)) (int k).name) (FixedInt.ofInt? k n.val)
  | .decimal (some d) p s =>
    orFail (.ofValue (.decimal (some d) p s) (int k).name)
      (if d.isInteger then FixedInt.ofInt? k d.truncated else none)
  | .varchar (some s) | .unknown (some s) => (int k).parse (Text.trim s)
  | v => .error (.ofValue v (int k).name)

/-- Numbers of all kinds, rounded to the nearest. -/
def floatOfValue (k : FloatKind) : Value → Except Error (Binary k)
  | .float l (some x) => .ok (if h : l = k then h ▸ x else x.convert k)
  | .int _ (some n) => .ok (Binary.ofInt k n.val)
  | .decimal (some d) _ _ => .ok (d.toBinary k)
  | .varchar (some s) | .unknown (some s) => (float k).parse (Text.trim s)
  | v => .error (.ofValue v (float k).name)

/-- A character, or a text of one character. -/
def charOfValue : Value → Except Error Char
  | .char (some c) => .ok c
  | .varchar (some s) | .unknown (some s) => char.parse s
  | v => .error (.ofValue v char.name)

/-- Texts, characters, identifiers, and bytes that are well-formed text. -/
def textOfValue : Value → Except Error String
  | .varchar (some s) | .unknown (some s) => .ok s
  | .char (some c) => .ok (String.singleton c)
  | .uuid (some u) => .ok u.toText
  | .blob (some b) => orFail (.ofValue (.blob (some b)) text.name) (Text.ofUtf8? b)
  | v => .error (.ofValue v text.name)

/-- Bytes, the bytes of a text, and untyped text in hexadecimal. -/
def bytesOfValue : Value → Except Error (List UInt8)
  | .blob (some b) => .ok b
  | .varchar (some s) => .ok (Text.utf8 s)
  | .unknown (some s) => bytes.parse s
  | v => .error (.ofValue v bytes.name)

/-- Numbers of all kinds, as far as a decimal can hold them. -/
def decimalOfValue : Value → Except Error Decimal
  | .decimal (some d) _ _ => .ok d
  | .int k (some n) => orFail (.ofValue (.int k (some n)) decimal.name) (Decimal.ofInt? n.val)
  | .float k (some x) => orFail (.ofValue (.float k (some x)) decimal.name) (Decimal.ofBinary? x)
  | .varchar (some s) | .unknown (some s) => decimal.parse (Text.trim s)
  | v => .error (.ofValue v decimal.name)

/-- Dates, and the dates of moments. -/
def dateOfValue : Value → Except Error Date
  | .date (some d) => .ok d
  | .timestamp (some m) => .ok m.date
  | .zoned (some z) => (utc z).map Moment.date
  | .varchar (some s) | .unknown (some s) => date.parse (Text.trim s)
  | v => .error (.ofValue v date.name)

/-- Times, and the times of moments without zone. -/
def timeOfValue : Value → Except Error TimeOfDay
  | .time (some t) => .ok t
  | .timestamp (some m) => .ok m.time
  | .varchar (some s) | .unknown (some s) => time.parse (Text.trim s)
  | v => .error (.ofValue v time.name)

/-- Moments, dates at midnight, and zoned moments in UTC. -/
def momentOfValue : Value → Except Error Moment
  | .timestamp (some m) => .ok m
  | .date (some d) => .ok (.atMidnight d)
  | .zoned (some z) => utc z
  | .varchar (some s) | .unknown (some s) => moment.parse (Text.trim s)
  | v => .error (.ofValue v moment.name)

/-- Zoned moments; moments and dates are taken in UTC. -/
def zonedOfValue : Value → Except Error ZonedMoment
  | .zoned (some z) => .ok z
  | .timestamp (some m) => .ok (.ofUtc m)
  | .date (some d) => .ok (.ofUtc (.atMidnight d))
  | .varchar (some s) | .unknown (some s) => zoned.parse (Text.trim s)
  | v => .error (.ofValue v zoned.name)

/-- Identifiers, and their sixteen bytes. -/
def uuidOfValue : Value → Except Error Uuid
  | .uuid (some u) => .ok u
  | .blob (some b) => orFail (.ofValue (.blob (some b)) uuid.name) (Uuid.ofBytes? b)
  | .varchar (some s) | .unknown (some s) => uuid.parse (Text.trim s)
  | v => .error (.ofValue v uuid.name)

/-- Converts a value of any kind. -/
def ofValue : (p : Primitive) → Value → Except Error p.Carrier
  | boolean => booleanOfValue
  | int k => intOfValue k
  | float k => floatOfValue k
  | char => charOfValue
  | text => textOfValue
  | bytes => bytesOfValue
  | decimal => decimalOfValue
  | date => dateOfValue
  | time => timeOfValue
  | moment => momentOfValue
  | zoned => zonedOfValue
  | uuid => uuidOfValue

end Primitive

end EntitySql
