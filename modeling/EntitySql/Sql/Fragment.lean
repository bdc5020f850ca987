import EntitySql.Dialect
import EntitySql.Marshal.Pair

/-!
# Fragments of statements

A fragment is a sequence of texts and parameters. Placeholders are not text: they are written,
and numbered where the dialect numbers them, only when the whole statement is turned into text.
So the placeholders of a statement, read from left to right, are its parameters in order.

**Separators.** `separated` writes the separator before a member only if the member before it
wrote something.
-/

namespace EntitySql

set_option autoImplicit false

/-- A text or a parameter. -/
inductive Piece where
  | text (s : String)
  | parameter (p : Pair)

/-- A sequence of texts and parameters. -/
abbrev Fragment := List Piece

namespace Piece

/-- The piece writes nothing. -/
def isEmpty : Piece → Bool
  | text s => s == ""
  | parameter _ => false

end Piece

/-- The placeholder of the `n`-th parameter. -/
def Dialect.placeholder : Dialect → Nat → String
  | .postgres, n => "$" ++ toString n
  | _, _ => "?"

namespace Fragment

/-- A fragment of one text. -/
def ofText (s : String) : Fragment := [.text s]

/-- The fragment writes nothing. -/
def writesNothing (f : Fragment) : Bool := f.all Piece.isEmpty

/-- The members with a separator before each one whose predecessor wrote something. -/
def separatedAfter (separator : String) (wrote : Bool) : List Fragment → Fragment
  | [] => []
  | f :: rest =>
    (if wrote then f.cons (.text separator) else f) ++
      separatedAfter separator (!f.writesNothing) rest

/-- The members with separators between them. -/
def separated (separator : String) (members : List Fragment) : Fragment :=
  separatedAfter separator false members

/-- The text, with `n` parameters before it. -/
def sqlFrom (d : Dialect) (n : Nat) : Fragment → String
  | [] => ""
  | .text s :: rest => s ++ sqlFrom d n rest
  | .parameter _ :: rest => d.placeholder (n + 1) ++ sqlFrom d (n + 1) rest

/-- The text of a whole statement. -/
def sql (d : Dialect) (f : Fragment) : String := sqlFrom d 0 f

/-- The parameters, in the order of their placeholders. -/
def parameters : Fragment → List Pair
  | [] => []
  | .text _ :: rest => parameters rest
  | .parameter p :: rest => p :: parameters rest

end Fragment

/-- Texts with separators between them, by the rule of fragments. -/
def separatedTexts (separator : String) (members : List String) : Fragment :=
  Fragment.separated separator (members.map Fragment.ofText)

end EntitySql
