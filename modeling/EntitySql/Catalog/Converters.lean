import EntitySql.Schema.ColumnDef
import EntitySql.Text.LetterCase

/-!
# Converters

Converters for columns: one that writes texts in upper case, and three that show what a converter
can do: always answer, always refuse, and never take part.
-/

namespace EntitySql.Converters

set_option autoImplicit false

/-- Texts in upper case; other values are left to the usual decoding. -/
def upper : Converter := fun v _ =>
  .ok <| v.text?.map fun s => .varchar (some (Text.toUpper s))

/-- Forty-two, whatever the value. -/
def answer : Converter := fun _ _ => .ok (some (.int .int32 (some (.clamp .int32 42))))

/-- A fault that names the column. -/
def reject : Converter := fun _ c => .error (.model (.stated s!"rejected {c.name}"))

/-- Leaves every value to the usual decoding. -/
def pass : Converter := fun _ _ => .ok none

/-- The converter of a name. -/
def ofName? : String → Option Converter
  | "upper" => some upper
  | "answer" => some answer
  | "reject" => some reject
  | "pass" => some pass
  | _ => none

end EntitySql.Converters
