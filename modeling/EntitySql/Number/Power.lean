/-!
# Powers of two and of ten

The sizes of binary words are powers of two, the units of decimal places are powers of ten.
-/

namespace EntitySql

set_option autoImplicit false

/-- A power of two. -/
def twoTo (n : Nat) : Nat := Nat.pow 2 n

/-- A power of ten. -/
def tenTo (n : Nat) : Nat := Nat.pow 10 n

@[simp] theorem twoTo_zero : twoTo 0 = 1 := rfl

theorem twoTo_succ (n : Nat) : twoTo (n + 1) = twoTo n * 2 := rfl

theorem twoTo_pos (n : Nat) : 0 < twoTo n := by
  induction n with
  | zero => decide
  | succ n ih =>
    rw [twoTo_succ]
    omega

@[simp] theorem tenTo_zero : tenTo 0 = 1 := rfl

theorem tenTo_succ (n : Nat) : tenTo (n + 1) = tenTo n * 10 := rfl

theorem tenTo_pos (n : Nat) : 0 < tenTo n := by
  induction n with
  | zero => decide
  | succ n ih =>
    rw [tenTo_succ]
    omega

/-- A unit of at least one decimal place is ten or more. -/
theorem ten_le_tenTo {n : Nat} (positive : 0 < n) : 10 ≤ tenTo n := by
  obtain ⟨m, rfl⟩ : ∃ m, n = m + 1 := ⟨n - 1, by omega⟩
  have := tenTo_pos m
  rw [tenTo_succ]
  omega

end EntitySql
