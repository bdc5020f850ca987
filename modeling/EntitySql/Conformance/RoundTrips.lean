import EntitySql.Conformance.Trial

/-!
# Trials of round trips

A value that is bound and decoded under one column comes back equal: of every kind, null or not,
in every storage. Labels of loose rows have several forms.
-/

namespace EntitySql.Conformance

set_option autoImplicit false

/-- A column for values of the kind of a value. -/
def columnFor (v : Value) (storage : Storage) : ColumnDef where
  field := "field"
  name := "COLUMN"
  storage
  prototype := v.prototype
  nullable := true
  key := .outside
  position := 0
  charset := .utf8
  scale := none
  converter := none

/-- Binds and decodes a value under a column. -/
def roundTrip (d : Dialect) (v : Value) (c : ColumnDef) : Trial Value := do
  decodeColumn (← bindPair d (.forColumn v c)) c

/-- The value comes back as another one, or as itself. -/
def comesBack (d : Dialect) (v : Value) (c : ColumnDef) (expected : Value) : Trial Unit := do
  ensure "the value comes back" ((← roundTrip d v c).equals expected)

/-- A moment without offset. -/
def moment (text : String) : Value := sample .moment text

/-- A value of every kind. -/
def everyKind : List Value :=
  [.boolean (some true), sample (.int .int8) "-8", sample (.int .int16) "1600", int32 (-320000),
    int64 6400000000, sample (.int .uint8) "8", sample (.int .uint16) "16000",
    sample (.int .uint32) "3200000000", sample (.int .uint64) "64000000000",
    sample (.float .float32) "0.5", sample (.float .float64) "-1.25",
    .decimal (Decimal.ofChars? "123.45".toList) 10 2, .char (some 't'), varchar "tabula",
    .blob (some [0, 1, 254, 255]), sample .date "2024-03-15", sample .time "10:30:15.5",
    moment "2024-03-15 10:30:15.125", sample .zoned "2024-03-15T10:30:00Z",
    sample .uuid "67e55044-10b1-426f-9247-bb680e5fe0c8",
    .list (some [int32 1, int32 2]) (.int .int32 none), sample (.float .float64) "inf"]

/-- Values and the storages they are declared to have. -/
def stored : List (Value × Storage) :=
  [(sample .date "2024-03-15", .longDate), (moment "2024-03-15 10:30:15.125", .longDate),
    (sample .time "01:00:00.5", .longDate), (sample .zoned "2024-03-15T12:30:00+02:00", .dateTime),
    (moment "2024-03-15 10:30:00", .timestamp), (varchar "Große Straße", .largeCharacter),
    (varchar "binary text", .largeObjectBinary),
    (.blob (some (List.replicate 4096 7)), .largeBinary)]

/-- Values and nulls of every kind come back. -/
def kindTrial (d : Dialect) : Trial Unit :=
  for v in everyKind do
    let c := columnFor v .plain
    comesBack d v c v
    comesBack d v.prototype c v.prototype

/-- Values come back from every storage. -/
def storageTrial (d : Dialect) : Trial Unit := do
  for (v, storage) in stored do
    comesBack d v (columnFor v storage) v
  let c := { columnFor (.varchar none) .largeCharacter with charset := .utf16Be }
  let text := varchar "ünïcödé"
  let bound ← bindPair d (.forColumn text c)
  ensure "the text is a stream of its character set" <|
    match bound with
    | .characters o => o.declared == 14
    | _ => false
  ensure "the text comes back" ((← decodeColumn bound c).equals text)

/-- Numbers are rounded only where a scale is declared. -/
def scaleTrial (d : Dialect) : Trial Unit := do
  let double := columnFor (.float .float64 none) .plain
  for text in ["0.30000000000000004", "1e-30", "1e30", "123456789.123456789"] do
    let v := sample (.float .float64) text
    comesBack d v double v
  comesBack d (sample (.float .float64) "2.345678") { double with scale := some 2 }
    (sample (.float .float64) "2.35")

/-- Loose rows have each value under every form of its label, and no row number. -/
def looseTrial : Trial Unit := do
  let ada := Value.unknown (some "Ada")
  let m ← require (← note .hydrateMap .map
    (hydrateMap (.ofValues ["FIRST_NAME", "rn_"] [ada, int64 1])))
  for key in ["FIRST_NAME", "firstName", "first_name"] do
    ensure "the value is under every form of its label" ((m.get? key).any (Value.equals ada))
  ensure "the row number is left out" (m.get? "rn_").isNone
  let v ← require (← note .hydrateScalar .value
    (hydrateScalar (.ofValues ["COUNT(*)"] [int64 42])))
  ensure "the scalar is the first value" (v.equals (int64 42))

/-- The trials of round trips. -/
def roundTripTrials (d : Dialect) : Trial Unit := do
  kindTrial d
  storageTrial d
  scaleTrial d
  looseTrial

end EntitySql.Conformance
