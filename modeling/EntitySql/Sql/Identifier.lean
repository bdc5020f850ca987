import EntitySql.Dialect
import EntitySql.Text.Ascii

/-!
# Identifiers

A name is written bare when it is a plain identifier and no reserved word; otherwise it is quoted,
with the closing quote doubled inside. The quotes are those of the dialect.
-/

namespace EntitySql

set_option autoImplicit false

/-- The words reserved by at least one of the dialects. -/
def reservedWords : List String := [
  "ALL", "AND", "AS", "ASC", "BETWEEN", "BY", "CASE", "CHECK", "COLUMN", "CONSTRAINT", "CREATE",
  "CROSS", "CURRENT", "DEFAULT", "DELETE", "DESC", "DISTINCT", "DROP", "ELSE", "END", "EXISTS",
  "FALSE", "FETCH", "FOR", "FOREIGN", "FROM", "FULL", "GRANT", "GROUP", "HAVING", "IN", "INNER",
  "INSERT", "INTO", "IS", "JOIN", "KEY", "LEFT", "LIKE", "LIMIT", "NOT", "NULL", "OFFSET", "ON",
  "OR", "ORDER", "OUTER", "PRIMARY", "REFERENCES", "RIGHT", "ROWNUM", "SELECT", "SET", "TABLE",
  "THEN", "TO", "TRUE", "UNION", "UNIQUE", "UPDATE", "USER", "USING", "VALUES", "WHEN", "WHERE",
  "WITH"]

/-- The word is reserved, in any case of its ASCII letters. -/
def isReservedWord (s : String) : Bool := reservedWords.contains (Text.upperAscii s)

/-- ASCII letters, digits and underscores, not starting with a digit. -/
def isPlainIdentifier (s : String) : Bool :=
  match s.toList with
  | [] => false
  | c :: rest => (c.isAlpha || c == '_') && rest.all fun d => d.isAlphanum || d == '_'

/-- The name cannot be written bare. -/
def needsQuoting (s : String) : Bool := !isPlainIdentifier s || isReservedWord s

/-- The characters with every occurrence of one of them doubled. -/
def doubling (q : Char) (cs : List Char) : List Char :=
  cs.flatMap fun c => if c = q then [q, q] else [c]

namespace Dialect

/-- The opening and the closing quote of identifiers. -/
def identifierQuotes : Dialect → Char × Char
  | mysql => ('\x60', '\x60')
  | sqlServer => ('[', ']')
  | _ => ('"', '"')

/-- The name between quotes. -/
def quotedIdentifier (d : Dialect) (s : String) : String :=
  let (opening, closing) := d.identifierQuotes
  String.ofList (opening :: (doubling closing s.toList ++ [closing]))

/-- The name as an identifier. -/
def identifier (d : Dialect) (s : String) : String :=
  if needsQuoting s then d.quotedIdentifier s else s

end Dialect

end EntitySql
