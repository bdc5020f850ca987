import EntitySql.Text.Alphanumeric
import EntitySql.Text.Blank

/-!
# Leading parts of a text

The part of a text before the first character outside a class, and what is left.
-/

namespace EntitySql.Text

set_option autoImplicit false

/-- Splits a text before its first character outside the class. -/
def consume (inClass : Char → Bool) (s : String) : String × String :=
  (String.ofList (s.toList.takeWhile inClass), String.ofList (s.toList.dropWhile inClass))

/-- Nothing is lost. -/
theorem consume_append (inClass : Char → Bool) (s : String) :
    (consume inClass s).1 ++ (consume inClass s).2 = s := by
  simp [consume, ← String.ofList_append]

/-- The classes of characters by name: ASCII digits, letters and digits, what is not blank. -/
def classOfName? : String → Option (Char → Bool)
  | "digit" => some Char.isDigit
  | "alphanumeric" => some isAlphanumeric
  | "word" => some fun c => !isBlank c
  | _ => none

end EntitySql.Text
