import EntitySql.Calendar.Printer
import EntitySql.Dialect
import EntitySql.Field.Primitive
import EntitySql.Number.Shortest
import EntitySql.Sql.Identifier

/-!
# Literals

Values written in place, as each dialect spells them.

**Strings** double the quote; one dialect also doubles the backslash, one marks national strings.
**Floating-point numbers** have the fewest digits that read back; what is not finite has a
spelling of its own, or none. **Zoned moments** are written in UTC, where they may fall out of
the calendar.
-/

namespace EntitySql

set_option autoImplicit false

/-- Layout of floating-point literals: of single precision they are positional from 0.000001 up
to below 10 to the 13th, of double precision from 0.00001 up to below 10 to the 16th. -/
def FloatLayout.literal : FloatKind → FloatLayout
  | .float32 => ⟨-5, 13, true⟩
  | .float64 => ⟨-4, 16, true⟩

namespace Dialect

/-- A text between quotes, each quote inside doubled. -/
def quotedText (cs : List Char) : List Char := '\'' :: (doubling '\'' cs ++ ['\''])

/-- A string literal. -/
def stringLiteral (d : Dialect) (s : String) : String :=
  String.ofList <|
    match d with
    | mysql => '\'' :: (doubling '\\' (doubling '\'' s.toList) ++ ['\''])
    | sqlServer => 'N' :: quotedText s.toList
    | _ => quotedText s.toList

/-- A truth value. -/
def booleanLiteral (d : Dialect) (b : Bool) : String :=
  match d with
  | oracle | sqlServer => if b then "1" else "0"
  | _ => if b then "true" else "false"

/-- Infinity of either sign. -/
def infinityLiteral (d : Dialect) (negative : Bool) : String :=
  let sign := if negative then "-" else ""
  match d with
  | generic => d.stringLiteral (sign ++ "Infinity")
  | mysql => sign ++ "1.0e+10000"
  | postgres => "'" ++ sign ++ "Infinity'::FLOAT8"
  | h2 => "CAST('" ++ sign ++ "Infinity' AS DOUBLE PRECISION)"
  | sqlServer => "NULL"
  | oracle => sign ++ "BINARY_DOUBLE_INFINITY"

/-- No number. -/
def nanLiteral (d : Dialect) : String :=
  match d with
  | generic => d.stringLiteral "NaN"
  | mysql | sqlServer => "NULL"
  | postgres => "'NaN'::FLOAT8"
  | h2 => "CAST('NaN' AS DOUBLE PRECISION)"
  | oracle => "BINARY_DOUBLE_NAN"

/-- A floating-point number. -/
def floatLiteral (d : Dialect) {k : FloatKind} (x : Binary k) : String :=
  match x.classify with
  | .nan => d.nanLiteral
  | .infinite negative => d.infinityLiteral negative
  | .finite negative significand exponent =>
    (FloatLayout.literal k).finite k negative significand exponent

/-- Bytes in hexadecimal. -/
def bytesLiteral (d : Dialect) (bytes : List UInt8) : String :=
  let lower := Text.hexOfBytes bytes
  let upper := String.ofList (lower.map Char.toUpper)
  match d with
  | postgres => "'\\x" ++ String.ofList lower ++ "'::BYTEA"
  | sqlServer => "0x" ++ upper
  | oracle => "HEXTORAW('" ++ upper ++ "')"
  | _ => "X'" ++ upper ++ "'"

/-- A date. -/
def dateLiteral (d : Dialect) (day : Date) : String :=
  match d with
  | oracle => "DATE '" ++ day.toCompactText ++ "'"
  | _ => "'" ++ day.toCompactText ++ "'"

/-- A time of day. -/
def timeLiteral (t : TimeOfDay) : String := "'" ++ t.toText ++ "'"

/-- A moment without zone. -/
def momentLiteral (d : Dialect) (m : Moment) : String :=
  let text := "'" ++ m.date.toCompactText ++ " " ++ m.time.toText ++ "'"
  match d with
  | oracle => "TIMESTAMP " ++ text
  | _ => text

mutual
/-- A value as a literal. -/
def literal (d : Dialect) : Value → Except Error String
  | .boolean (some b) => .ok (d.booleanLiteral b)
  | .int _ (some n) => .ok (toString n.val)
  | .float _ (some x) => .ok (d.floatLiteral x)
  | .decimal (some v) _ _ => .ok v.toText
  | .char (some c) => .ok (d.stringLiteral (String.singleton c))
  | .varchar (some s) | .unknown (some s) => .ok (d.stringLiteral s)
  | .blob (some b) => .ok (d.bytesLiteral b)
  | .date (some day) => .ok (d.dateLiteral day)
  | .time (some t) => .ok (timeLiteral t)
  | .timestamp (some m) => .ok (d.momentLiteral m)
  | .zoned (some z) => (Primitive.utc z).map d.momentLiteral
  | .uuid (some u) => .ok ("'" ++ u.toText ++ "'")
  | .list (some vs) _ => do
    let members ← literals d vs
    return "(" ++ String.intercalate ", " members ++ ")"
  | _ => .ok "NULL"
  termination_by structural v => v

/-- The members of a list as literals. -/
def literals (d : Dialect) : List Value → Except Error (List String)
  | [] => .ok []
  | v :: vs => do
    let first ← literal d v
    let rest ← literals d vs
    return first :: rest
  termination_by structural vs => vs
end

end Dialect

end EntitySql
