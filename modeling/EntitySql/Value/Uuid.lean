import EntitySql.Text.Hex

/-!
# Universally unique identifiers

An identifier is sixteen bytes. Its text is thirty-two lower-case digits in groups of eight, four,
four, four and twelve, joined by hyphens. Reading also takes upper-case digits, the digits without
hyphens, and the hyphenated form in braces or after `urn:uuid:`.
-/

namespace EntitySql

set_option autoImplicit false

/-- Sixteen bytes. -/
structure Uuid where
  bytes : List UInt8
  length_eq : bytes.length = 16
deriving DecidableEq, Repr

namespace Uuid

/-- The identifier of bytes, if they are sixteen. -/
def ofBytes? (bytes : List UInt8) : Option Uuid :=
  if h : bytes.length = 16 then some ⟨bytes, h⟩ else none

/-- Digits in five groups joined by hyphens. -/
def hyphenate (digits : List Char) : List Char :=
  digits.take 8 ++ '-' :: ((digits.drop 8).take 4 ++ '-' :: ((digits.drop 12).take 4 ++
    '-' :: ((digits.drop 16).take 4 ++ '-' :: digits.drop 20)))

/-- The hyphenated text. -/
def toText (u : Uuid) : String := String.ofList (hyphenate (Text.hexOfBytes u.bytes))

/-- Reads thirty-two digits. -/
def ofDigits? (digits : List Char) : Option Uuid := (Text.bytesOfHex? digits).bind ofBytes?

/-- Reads the hyphenated form. -/
def ofHyphenated? (cs : List Char) : Option Uuid :=
  let digits := cs.take 8 ++ (cs.drop 9).take 4 ++ (cs.drop 14).take 4 ++ (cs.drop 19).take 4 ++
    cs.drop 24
  if cs.length = 36 && cs == hyphenate digits then ofDigits? digits else none

/-- Reads a whole text in any of the accepted forms. -/
def ofChars? (cs : List Char) : Option Uuid :=
  if cs.length = 32 then ofDigits? cs
  else if cs.length = 36 then ofHyphenated? cs
  else
    match cs with
    | '\x7b' :: rest =>
      if rest.getLast? = some '\x7d' then ofHyphenated? rest.dropLast else none
    | 'u' :: 'r' :: 'n' :: ':' :: 'u' :: 'u' :: 'i' :: 'd' :: ':' :: rest => ofHyphenated? rest
    | _ => none

end Uuid

end EntitySql
