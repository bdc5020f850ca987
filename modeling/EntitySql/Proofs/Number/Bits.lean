import Mathlib.Data.Int.Bitwise

/-!
# Bits of integers

Integers have bits without end: from some place on, those of a negative number are all ones and
those of any other are all zeros. A fact about two integers therefore holds if it does for the
numbers 0 and -1, and if one more bit below each keeps it (`bit_induction₂`).

By this principle a sum parts into the bits that both numbers have and those that either of them
has, so disjunction and exclusive disjunction are told from the conjunction by arithmetic
(`lor_eq`, `xor_eq`). The complement is told from the conjunction with -1 (`lnot_eq`).
-/

namespace EntitySql

set_option autoImplicit false

/-! ## Bit by bit -/

/-- A number is no nearer to zero than without its last bit. -/
theorem natAbs_div2_le (n : Int) : n.div2.natAbs ≤ n.natAbs := by
  rw [Int.div2_val]
  omega

/-- Only 0 and -1 are as near to zero. -/
theorem natAbs_div2_lt {n : Int} (goesOn : ¬(n = 0 ∨ n = -1)) : n.div2.natAbs < n.natAbs := by
  rw [Int.div2_val]
  omega

/-- **Two integers come about bit by bit,** each from 0 or from -1. -/
theorem bit_induction₂ {p : Int → Int → Prop}
    (ends : ∀ m n : Int, m = 0 ∨ m = -1 → n = 0 ∨ n = -1 → p m n)
    (step : ∀ (x : Bool) (m : Int) (y : Bool) (n : Int), p m n → p (.bit x m) (.bit y n))
    (m n : Int) : p m n := by
  by_cases ended : (m = 0 ∨ m = -1) ∧ (n = 0 ∨ n = -1)
  · exact ends m n ended.1 ended.2
  · have shorter := bit_induction₂ ends step m.div2 n.div2
    rw [← Int.bit_decomp m, ← Int.bit_decomp n]
    exact step _ _ _ _ shorter
termination_by m.natAbs + n.natAbs
decreasing_by
  have first := natAbs_div2_le m
  have second := natAbs_div2_le n
  rcases not_and_or.1 ended with goesOn | goesOn
  · have nearer := natAbs_div2_lt goesOn
    omega
  · have nearer := natAbs_div2_lt goesOn
    omega

/-! ## Sums of bits -/

/-- The bits of both numbers and those of either have the same sum as the numbers. -/
theorem land_add_lor (m n : Int) : m.land n + m.lor n = m + n := by
  induction m, n using bit_induction₂ with
  | ends m n first second =>
    rcases first with rfl | rfl <;> rcases second with rfl | rfl <;> decide +kernel
  | step x m y n ih =>
    rw [Int.land_bit, Int.lor_bit]
    simp only [Int.bit_val]
    cases x <;> cases y <;> simp only [Bool.and_true, Bool.and_false, Bool.or_true, Bool.or_false,
      cond_true, cond_false] <;> omega

/-- The bits of one number alone and twice those of both have the same sum as the numbers. -/
theorem xor_add_two_mul_land (m n : Int) : m.xor n + 2 * m.land n = m + n := by
  induction m, n using bit_induction₂ with
  | ends m n first second =>
    rcases first with rfl | rfl <;> rcases second with rfl | rfl <;> decide +kernel
  | step x m y n ih =>
    rw [Int.lxor_bit, Int.land_bit]
    simp only [Int.bit_val]
    cases x <;> cases y <;> simp only [Bool.and_true, Bool.and_false, Bool.xor_true, Bool.xor_false,
      Bool.not_true, Bool.not_false, cond_true, cond_false] <;> omega

/-- **Disjunction by arithmetic.** -/
theorem lor_eq (m n : Int) : m.lor n = m + n - m.land n := by
  have parts := land_add_lor m n
  omega

/-- **Exclusive disjunction by arithmetic.** -/
theorem xor_eq (m n : Int) : m.xor n = m + n - 2 * m.land n := by
  have parts := xor_add_two_mul_land m n
  omega

/-- All bits of a number are in -1. -/
theorem land_neg_one (m : Int) : m.land (-1) = m := by
  cases m with
  | ofNat m => exact congrArg Int.ofNat (Nat.eq_of_testBit_eq fun i => by simp [Nat.testBit_ldiff])
  | negSucc m => exact congrArg Int.negSucc (Nat.or_zero m)

/-- **Complement by arithmetic.** -/
theorem lnot_eq (m : Int) : m.lnot = m - 1 - 2 * m.land (-1) := by
  have flipped : m.lnot = -m - 1 := by
    cases m <;> simp only [Int.lnot, Int.ofNat_eq_natCast] <;> omega
  rw [flipped, land_neg_one]
  omega

end EntitySql
