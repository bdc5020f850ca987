import EntitySql.BitOp
import EntitySql.Dialect
import EntitySql.Error

/-!
# Operators between columns

How each dialect spells bitwise and arithmetic operators. One dialect has functions for the
bitwise ones; one has only the conjunction of bits and derives the others from it:
`a | b = (a + b) - (a & b)`, `a ^ b = (a + b) - 2 (a & b)` and `~a = (a - 1) - 2 (a & -1)`.
-/

namespace EntitySql

set_option autoImplicit false

namespace Dialect

/-- An operator between its operands. -/
def between (a symbol b : String) : String := "(" ++ a ++ " " ++ symbol ++ " " ++ b ++ ")"

/-- A function of two operands. -/
def call (function a b : String) : String := function ++ "(" ++ a ++ ", " ++ b ++ ")"

/-- The complement of the bits of an operand. -/
def complement (d : Dialect) (a : String) : String :=
  match d with
  | h2 => "BITNOT(" ++ a ++ ")"
  | oracle => "((" ++ a ++ " - 1) - 2 * BITAND(" ++ a ++ ", -1))"
  | _ => "(~" ++ a ++ ")"

/-- An operator of two operands. -/
def binary (d : Dialect) (op : BitOp) (a b : String) : String :=
  match op with
  | .not => d.complement a
  | .and =>
    match d with
    | h2 | oracle => call "BITAND" a b
    | _ => between a "&" b
  | .or =>
    match d with
    | h2 => call "BITOR" a b
    | oracle => "((" ++ a ++ " + " ++ b ++ ") - " ++ call "BITAND" a b ++ ")"
    | _ => between a "|" b
  | .xor =>
    match d with
    | h2 => call "BITXOR" a b
    | oracle => "((" ++ a ++ " + " ++ b ++ ") - 2 * " ++ call "BITAND" a b ++ ")"
    | postgres => between a "#" b
    | _ => between a "^" b
  | .remainder =>
    match d with
    | h2 | oracle => call "MOD" a b
    | _ => between a "%" b
  | .add => between a "+" b
  | .subtract => between a "-" b
  | .multiply => between a "*" b
  | .divide => between a "/" b

/-- An operator applied to its operands; only the complement does without a second one. -/
def operation (d : Dialect) (op : BitOp) (a : String) (b : Option String) :
    Except Error String :=
  match op, b with
  | .not, _ => .ok (d.complement a)
  | _, some b => .ok (d.binary op a b)
  | _, none => .error (.model (.missingOperand op))

end Dialect

end EntitySql
