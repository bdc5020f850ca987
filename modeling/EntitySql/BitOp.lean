/-!
# Bitwise and arithmetic operators

The operators that combine a column with a second operand. Complement takes one operand only.
-/

namespace EntitySql

set_option autoImplicit false

/-- An operator between columns. -/
inductive BitOp where
  | and
  | or
  | xor
  | not
  | add
  | subtract
  | multiply
  | divide
  | remainder
deriving DecidableEq, Repr

namespace BitOp

/-- All operators. -/
def all : List BitOp := [and, or, xor, not, add, subtract, multiply, divide, remainder]

/-- The operator has no second operand. -/
def isUnary (op : BitOp) : Bool := op == not

/-- The name of the operator. -/
def name : BitOp → String
  | and => "And"
  | or => "Or"
  | xor => "Xor"
  | not => "Not"
  | add => "Add"
  | subtract => "Subtract"
  | multiply => "Multiply"
  | divide => "Divide"
  | remainder => "Remainder"

end BitOp

end EntitySql
