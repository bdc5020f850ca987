import EntitySql.BitOp
import EntitySql.Text.Charset
import EntitySql.Value.Printer

/-!
# What can go wrong

Every failure is a cause with what it is about; its text is made in one place, `Error.message`,
and for failures of decoding `Error.chain` adds the causes behind it.

**Aborts.** Some situations end the work outright and have no text: cutting a text inside a
character, naming an instant outside the years of the calendar, a stream whose declared length
exceeds every memory, a label of a row that has no value.
-/

namespace EntitySql

set_option autoImplicit false

/-- A malformed query or request. -/
inductive ModelFault where
  | labelCount (names labels : Nat)
  | noTable
  | missingOperand (op : BitOp)
  | unqualifiedColumn (name : String)
  | nothingToSelect (label : String)
  | nullComparison (left symbol : String)
  | missingBound (left : String)
  | offsetWithoutLimit
  | keyCount (typeName : String) (columns values : Nat)
  | nothingToInsert (table : String)
  | missingKeyValue (column : String)
  | nothingToUpdate (table : String)
  | updateWithoutCondition
  | deleteWithoutCondition
  | columnNotInRow (column typeName : String)
  | missingColumn (column : String)
  /-- A fault found by a converter, in its own words. -/
  | stated (text : String)
deriving DecidableEq, Repr

namespace ModelFault

/-- The text of the fault. -/
def message : ModelFault → String
  | labelCount names labels => s!"{names} column names were given with {labels} labels"
  | noTable => "The query does not select from any table"
  | missingOperand op => s!"Operator {op.name} needs a second operand"
  | unqualifiedColumn name =>
    s!"Column `{name}` must be qualified with a table alias, the query has more than one table"
  | nothingToSelect label => s!"Column labeled `{label}` has nothing to select"
  | nullComparison left symbol => s!"Cannot compare `{left}` {symbol} NULL"
  | missingBound left => s!"BETWEEN on `{left}` needs both bounds"
  | offsetWithoutLimit => "An offset was given without a limit"
  | keyCount typeName columns values =>
    s!"`{typeName}` has {columns} primary key columns, {values} values were given"
  | nothingToInsert table => s!"Nothing to insert into `{table}`"
  | missingKeyValue column => s!"Primary key column `{column}` has no value"
  | nothingToUpdate table => s!"Nothing to update in `{table}`"
  | updateWithoutCondition => "UPDATE requires a condition"
  | deleteWithoutCondition => "DELETE requires a condition"
  | columnNotInRow column typeName =>
    s!"Column `{column}` of `{typeName}` does not exist in the row provided"
  | missingColumn column => s!"Missing column {column}"
  | stated text => text

end ModelFault

/-- Entity metadata that cannot be used. -/
inductive SchemaFault where
  | noColumns (typeName : String)
  | repeatedField (typeName field : String)
  | repeatedColumn (typeName column : String)
  | noPrimaryKey (typeName : String)
deriving DecidableEq, Repr

namespace SchemaFault

/-- The text of the fault. -/
def message : SchemaFault → String
  | noColumns typeName => s!"Entity `{typeName}` does not declare any column"
  | repeatedField typeName field =>
    s!"Entity `{typeName}` declares field `{field}` more than once"
  | repeatedColumn typeName column =>
    s!"Entity `{typeName}` maps column `{column}` more than once"
  | noPrimaryKey typeName => s!"Entity `{typeName}` does not have a primary key"

end SchemaFault

/-- A stream that could not be read to its declared end. -/
inductive StreamFault where
  | unreadable (cause : String)
  | short (read declared : Nat)
deriving DecidableEq, Repr

namespace StreamFault

/-- The texts of the fault, each one the cause of the one before. -/
def messages : StreamFault → List String
  | unreadable cause => ["Failed to read the large object stream", cause]
  | short read declared => [s!"The large object stream ended after {read} of {declared} bytes"]

end StreamFault

/-- Why the value of a stream column could not be decoded. -/
inductive DecodeFault where
  | bytes (fault : StreamFault)
  | unreadText (charset : Text.Charset) (fault : StreamFault)
  | malformedText (charset : Text.Charset) (fault : Text.CharsetFault)
deriving DecidableEq, Repr

namespace DecodeFault

/-- What was being read when a text failed. -/
def reading (charset : Text.Charset) : String :=
  s!"While reading a {charset.label} character stream"

/-- The texts of the fault, each one the cause of the one before. -/
def messages : DecodeFault → List String
  | bytes fault => fault.messages
  | unreadText charset fault => reading charset :: fault.messages
  | malformedText charset fault => reading charset :: fault.messages

end DecodeFault

/-- What could not be converted. -/
inductive Subject where
  | value (v : Value)
  | text (s : String)

namespace Subject

/-- The subject as shown: a value with its kind, a text between quotes. -/
def shown : Subject → String
  | value v => v.shown
  | text s => Text.quoted s

end Subject

/-- A situation that ends the work without a text. -/
inductive Abort where
  | cutCharacter
  | instantOutOfRange
  | lengthOutOfRange
  | missingCell
deriving DecidableEq, Repr

/-- A failure of the library. -/
inductive Error where
  | model (fault : ModelFault)
  | aliasCollision (name : String)
  | conversion (subject : Subject) (target : String)
  | schema (fault : SchemaFault)
  | decode (column : String) (fault : DecodeFault)
  | abort (cause : Abort)

namespace Error

/-- The text of a failure; aborts have none. -/
def message : Error → String
  | model fault => "Model error: " ++ fault.message
  | aliasCollision name => s!"Alias `{name}` is already used in this query"
  | conversion subject target => s!"Cannot convert {subject.shown} to {target}"
  | schema fault => "Schema error: " ++ fault.message
  | decode column _ => s!"Could not decode column `{column}`"
  | abort _ => ""

/-- The causes behind a failure of decoding, the outermost first. -/
def chain : Error → List String
  | decode _ fault => fault.messages
  | _ => []

/-- A value that cannot be converted. -/
def ofValue (v : Value) (target : String) : Error := conversion (.value v) target

/-- A text that cannot be converted. -/
def ofText (s target : String) : Error := conversion (.text s) target

end Error

end EntitySql
