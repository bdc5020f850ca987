import EntitySql.Text.Ascii

/-!
# How a column is stored

The storage of a column is declared apart from the type of its field: a date may be stored as
milliseconds, a text as a large object. The key role says whether the column identifies its row.
-/

namespace EntitySql

set_option autoImplicit false

/-- The declared representation of a column in the database. -/
inductive Storage where
  /-- As the primitive kind of the field. -/
  | plain
  /-- Milliseconds since the start of 1970. -/
  | longDate
  /-- Date and time without zone. -/
  | dateTime
  /-- An instant, in UTC. -/
  | timestamp
  | largeBinary
  | largeCharacter
  /-- A binary large object of text or bytes. -/
  | largeObjectBinary
deriving DecidableEq, Repr

namespace Storage

/-- All storages. -/
def all : List Storage :=
  [plain, longDate, dateTime, timestamp, largeBinary, largeCharacter, largeObjectBinary]

/-- The name of the storage. -/
def name : Storage → String
  | plain => "Plain"
  | longDate => "LongDate"
  | dateTime => "DateTime"
  | timestamp => "Timestamp"
  | largeBinary => "LargeBinary"
  | largeCharacter => "LargeCharacter"
  | largeObjectBinary => "LargeObjectBinary"

/-- Content is handed over as a stream. -/
def isLargeObject : Storage → Bool
  | largeBinary | largeCharacter | largeObjectBinary => true
  | _ => false

/-- Reads the name used in declarations, without regard to ASCII case. -/
def ofName? (s : String) : Option Storage :=
  match Text.lowerAscii s with
  | "plain" => some plain
  | "long_date" => some longDate
  | "datetime" | "date_time" => some dateTime
  | "timestamp" => some timestamp
  | "large_binary" | "blob" => some largeBinary
  | "large_character" | "clob" => some largeCharacter
  | "large_object_binary" | "lob" => some largeObjectBinary
  | _ => none

end Storage

/-- How a column takes part in the primary key. -/
inductive KeyRole where
  /-- The only column of the key. -/
  | whole
  /-- One of several columns of the key. -/
  | part
  | outside
deriving DecidableEq, Repr

namespace KeyRole

/-- All roles. -/
def all : List KeyRole := [whole, part, outside]

/-- The name of the role. -/
def name : KeyRole → String
  | whole => "PrimaryKey"
  | part => "PartOfPrimaryKey"
  | outside => "None"

end KeyRole

end EntitySql
