import EntitySql.Text.Cluster
import EntitySql.Text.LetterCase

/-!
# Words inside names

A name such as `userAccount_id` is made of words. Words end at underscores, hyphens and spaces,
which are dropped, and at changes of the kind of character, which drop nothing: from lower to
upper case, between letters and digits, and before the last capital of a run of capitals that
goes on in lower case.

**Units.** A unit is a character with all that stays together with it; it has a case only when its
upper and lower forms differ.
-/

namespace EntitySql.Text

set_option autoImplicit false

/-- The unit is in upper case. -/
def unitIsUpper (u : List Char) : Bool :=
  let s := String.ofList u
  toUpper s != toLower s && s == toUpper s

/-- The unit is in lower case. -/
def unitIsLower (u : List Char) : Bool :=
  let s := String.ofList u
  toUpper s != toLower s && s == toLower s

/-- The unit is made of ASCII digits. -/
def unitIsDigit (u : List Char) : Bool := u.all Char.isDigit

/-- The unit separates words and belongs to none. -/
def unitSeparates (u : List Char) : Bool := u == ['_'] || u == ['-'] || u == [' ']

/-- A word ends between two neighbouring units. -/
def endsBetween (a b : List Char) : Bool :=
  (unitIsLower a && unitIsUpper b) || (unitIsLower a && unitIsDigit b) ||
    (unitIsUpper a && unitIsDigit b) || (unitIsDigit a && unitIsLower b) ||
    (unitIsDigit a && unitIsUpper b)

/-- A word ends after `a`, given the units that follow it. -/
def endsAfter (a : List Char) : List (List Char) → Bool
  | [] => false
  | [b] => endsBetween a b
  | b :: c :: _ => endsBetween a b || (unitIsUpper a && unitIsUpper b && unitIsLower c)

/-- Splits units into words, given the current word in reverse; empty words are dropped. -/
def wordsOfUnits (current : List (List Char)) : List (List Char) → List (List Char)
  | [] => if current.isEmpty then [] else [current.reverse.flatten]
  | u :: rest =>
    if unitSeparates u then
      if current.isEmpty then wordsOfUnits [] rest
      else current.reverse.flatten :: wordsOfUnits [] rest
    else if endsAfter u rest then (u :: current).reverse.flatten :: wordsOfUnits [] rest
    else wordsOfUnits (u :: current) rest

/-- The words of a name. -/
def words (s : String) : List String :=
  (wordsOfUnits [] (clusters s.toList)).map String.ofList

/-- A word with its first unit in upper case and the others in lower case. -/
def capitalized (word : String) : String :=
  match clusters word.toList with
  | [] => ""
  | first :: rest => toUpper (String.ofList first) ++ toLower (String.ofList rest.flatten)

/-- The words joined in camel case: all but the first are capitalized. -/
def camelCase (s : String) : String :=
  match words s with
  | [] => ""
  | first :: rest => toLower first ++ String.join (rest.map capitalized)

/-- The words in upper case, joined by underscores. -/
def upperSnakeCase (s : String) : String := String.intercalate "_" ((words s).map toUpper)

end EntitySql.Text
