import EntitySql.Proofs.Text.Identifiers
import EntitySql.Sql.Literal

/-!
# What a string literal stands for

A reader of a statement takes a text between quotes as one token. The token goes on to the first
closing quote that no other one follows; two in a row stand for one inside. Where backslashes
escape, a backslash takes the next character with it, and the two stand for the character that the
table of escapes names (`escapedMeaning`).

The text written for a character stands for that character, whatever comes after it
(`readQuoted_written`). So a text between its quotes is read back in full, before anything but
another quote (`readQuoted_spelled`), and so is the literal of a string in every dialect
(`Dialect.literal_readString`): no string ends its literal early.
-/

namespace EntitySql

set_option autoImplicit false

/-! ## Reading between quotes -/

/-- What a backslash stands for together with the character after it. Before the two wildcards of
patterns it stays. -/
def escapedMeaning : Char → List Char
  | '0' => ['\x00']
  | 'b' => ['\x08']
  | 'n' => ['\n']
  | 'r' => ['\r']
  | 't' => ['\t']
  | 'Z' => ['\x1a']
  | '%' => ['\\', '%']
  | '_' => ['\\', '_']
  | c => [c]

/-- Puts characters before what was read. -/
def readBefore (cs : List Char) (read : List Char × List Char) : List Char × List Char :=
  (cs ++ read.1, read.2)

/-- Reads on after an opening quote: what the text stands for, and what comes after the closing
quote. -/
def readQuoted (closing : Char) (escapes : Bool) : List Char → Option (List Char × List Char)
  | [] => none
  | [c] => if c = closing then some ([], []) else none
  | c :: e :: rest =>
    if c = closing then
      if e = closing then (readQuoted closing escapes rest).map (readBefore [closing])
      else some ([], e :: rest)
    else if escapes && c == '\\' then
      (readQuoted closing escapes rest).map (readBefore (escapedMeaning e))
    else (readQuoted closing escapes (e :: rest)).map (readBefore [c])

/-- The text written for a character between quotes: what ends a token or escapes is doubled. -/
def quotedSpelling (closing : Char) (escapes : Bool) (c : Char) : List Char :=
  if c = closing ∨ escapes && c == '\\' then [c, c] else [c]

section

variable {closing : Char} {escapes : Bool} {rest : List Char}

/-- What is written for a character stands for it. -/
theorem readQuoted_written (apart : closing ≠ '\\') (c : Char) (rest : List Char) :
    readQuoted closing escapes (quotedSpelling closing escapes c ++ rest) =
      (readQuoted closing escapes rest).map (readBefore [c]) := by
  by_cases ends : c = closing
  · simp [quotedSpelling, ends, readQuoted]
  · by_cases slash : (escapes && c == '\\') = true
    · obtain ⟨rfl, rfl⟩ : escapes = true ∧ c = '\\' := by simpa using slash
      simp [quotedSpelling, readQuoted, escapedMeaning, Ne.symm apart]
    · have alone : quotedSpelling closing escapes c = [c] := by simp [quotedSpelling, ends, slash]
      rw [alone]
      cases rest with
      | nil => simp [readQuoted, ends]
      | cons e rest => simp [readQuoted, ends, slash]

/-- A closing quote ends the token unless another one follows. -/
theorem readQuoted_closing (last : rest.head? ≠ some closing) :
    readQuoted closing escapes (closing :: rest) = some ([], rest) := by
  cases rest with
  | nil => simp [readQuoted]
  | cons e rest =>
    have other : e ≠ closing := by simpa using last
    simp [readQuoted, other]

/-- **A text between its quotes is read back**, with nothing of what follows. -/
theorem readQuoted_spelled (escapes : Bool) (apart : closing ≠ '\\')
    (last : rest.head? ≠ some closing) (cs : List Char) :
    readQuoted closing escapes (cs.flatMap (quotedSpelling closing escapes) ++ closing :: rest) =
      some (cs, rest) := by
  induction cs with
  | nil => exact readQuoted_closing last
  | cons c cs ih =>
    rw [List.flatMap_cons, List.append_assoc, readQuoted_written apart, ih]
    rfl

end

/-! ## String literals -/

theorem doubling_eq_spelled (q : Char) (cs : List Char) :
    doubling q cs = cs.flatMap (quotedSpelling q false) := by
  have same : (fun c => if c = q then [q, q] else [c]) = quotedSpelling q false := by
    funext c
    by_cases h : c = q <;> simp [quotedSpelling, h]
  rw [doubling, same]

/-- Doubling the quotes and then the backslashes spells each character on its own. -/
theorem doubling_doubling_eq_spelled (cs : List Char) :
    doubling '\\' (doubling '\'' cs) = cs.flatMap (quotedSpelling '\'' true) := by
  rw [doubling, doubling, List.flatMap_assoc]
  congr 1
  funext c
  by_cases quote : c = '\''
  · simp [quotedSpelling, quote]
  · by_cases slash : c = '\\' <;> simp [quotedSpelling, quote, slash]

namespace Dialect

variable {d : Dialect} {rest : List Char}

/-- Backslashes escape inside the strings of the dialect. -/
def hasEscapes : Dialect → Bool
  | mysql => true
  | _ => false

/-- Reads a text between single quotes: the string, and what comes after. -/
def readQuotedText? (d : Dialect) : List Char → Option (String × List Char)
  | '\'' :: inside =>
    (readQuoted '\'' d.hasEscapes inside).map fun read => (String.ofList read.1, read.2)
  | _ => none

/-- Reads the string literal that a text starts with. In one dialect a letter before the quote
marks national strings. -/
def readString? (d : Dialect) (cs : List Char) : Option (String × List Char) :=
  match d, cs with
  | sqlServer, 'N' :: quoted => d.readQuotedText? quoted
  | _, _ => d.readQuotedText? cs

/-- The literal of a string is read back, with nothing of what follows. -/
theorem readString_stringLiteral (d : Dialect) (s : String) (last : rest.head? ≠ some '\'') :
    d.readString? ((d.stringLiteral s).toList ++ rest) = some (s, rest) := by
  have plain := readQuoted_spelled false (by decide) last s.toList
  rw [← doubling_eq_spelled] at plain
  have escaping := readQuoted_spelled true (by decide) last s.toList
  rw [← doubling_doubling_eq_spelled] at escaping
  cases d <;>
    simp [readString?, readQuotedText?, stringLiteral, quotedText, hasEscapes, plain, escaping]

/-- **A string is read back from its literal**, whichever value it is written for, before any text
that does not start with a quote. -/
theorem literal_readString (d : Dialect) (s : String) {rest : List Char}
    (last : rest.head? ≠ some '\'') :
    ∃ written, d.literal (.varchar (some s)) = .ok written ∧
      d.literal (.unknown (some s)) = .ok written ∧
      (∀ c, s = String.singleton c → d.literal (.char (some c)) = .ok written) ∧
      d.readString? (written.toList ++ rest) = some (s, rest) :=
  ⟨d.stringLiteral s, by rw [literal], by rw [literal],
    fun c single => by rw [literal, single], d.readString_stringLiteral s last⟩

/-- A string that tries to end its literal, with a backslash before its quote. -/
theorem literal_readString_hostileSample :
    ∃ written, mysql.literal (.varchar (some "\\' OR 1=1 --")) = .ok written ∧
      mysql.literal (.unknown (some "\\' OR 1=1 --")) = .ok written ∧
      (∀ c, "\\' OR 1=1 --" = String.singleton c → mysql.literal (.char (some c)) = .ok written) ∧
      mysql.readString? (written.toList ++ [' ', 'A']) = some ("\\' OR 1=1 --", [' ', 'A']) :=
  mysql.literal_readString "\\' OR 1=1 --" (by decide)

end Dialect

end EntitySql
