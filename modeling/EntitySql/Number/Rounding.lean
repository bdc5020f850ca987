/-!
# Rounding a quotient to a whole number

`roundHalfEven n d` is the whole number nearest to `n / d`; of two equally near ones it is the
even one. A true division never grows, rounding included.
-/

namespace EntitySql

set_option autoImplicit false

/-- The whole number nearest to `n / d`, a half going to the even neighbour. -/
def roundHalfEven (n d : Nat) : Nat :=
  let q := n / d
  let r := n % d
  if d < 2 * r ∨ (2 * r = d ∧ q % 2 = 1) then q + 1 else q

/-- The whole number nearest to `n / d`, a half going up. -/
def roundHalfUp (n d : Nat) : Nat := (2 * n + d) / (2 * d)

/-- Division by two or more does not grow, rounding included. -/
theorem roundHalfEven_le {n d : Nat} (hd : 2 ≤ d) : roundHalfEven n d ≤ n := by
  have split_n : d * (n / d) + n % d = n := Nat.div_add_mod n d
  have twice : 2 * (n / d) ≤ d * (n / d) := Nat.mul_le_mul_right _ hd
  simp only [roundHalfEven]
  split <;> omega

end EntitySql
