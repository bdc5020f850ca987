import EntitySql.Text.Printable

/-!
# Quoted texts

A text is shown between double quotes, a character between single quotes. Inside, the enclosing
quote and the backslash are escaped by a backslash, line breaks, tabs and the null character by a
letter, and whatever has no visible form by its code point, as in `\u{1}`.
-/

namespace EntitySql.Text

set_option autoImplicit false

/-- The lower-case hexadecimal digits of a number, at least one. -/
def hexDigits (n : Nat) : String := String.ofList (Nat.toDigits 16 n)

/-- One character as it stands between two quotes of the given kind. -/
def escapeChar (quote c : Char) : String :=
  if c = quote then "\\" ++ String.singleton c
  else if c = '\\' then "\\\\"
  else if c = '\n' then "\\n"
  else if c = '\r' then "\\r"
  else if c = '\t' then "\\t"
  else if c = '\x00' then "\\0"
  else if isExtending c || !isPrintable c then "\\u\x7b" ++ hexDigits c.toNat ++ "\x7d"
  else String.singleton c

/-- A text between double quotes. -/
def quoted (s : String) : String :=
  "\"" ++ String.join (s.toList.map (escapeChar '"')) ++ "\""

/-- A character between single quotes. -/
def quotedChar (c : Char) : String := "'" ++ escapeChar '\'' c ++ "'"

end EntitySql.Text
