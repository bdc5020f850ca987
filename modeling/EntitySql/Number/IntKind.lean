import EntitySql.Number.Power

/-!
# Integers of fixed width

Columns hold integers of eight kinds: signed and unsigned, of 8, 16, 32 and 64 bits. A value of a
kind is an integer together with the proof that it lies in the range of the kind, so no operation
can leave the range unnoticed.
-/

namespace EntitySql

set_option autoImplicit false

/-- The eight integer kinds. -/
inductive IntKind where
  | int8
  | int16
  | int32
  | int64
  | uint8
  | uint16
  | uint32
  | uint64
deriving DecidableEq, Repr

namespace IntKind

/-- All kinds, signed before unsigned, narrow before wide. -/
def all : List IntKind := [int8, int16, int32, int64, uint8, uint16, uint32, uint64]

/-- How many bits a value takes. -/
def bits : IntKind → Nat
  | int8 | uint8 => 8
  | int16 | uint16 => 16
  | int32 | uint32 => 32
  | int64 | uint64 => 64

/-- Whether the kind has negative values. -/
def signed : IntKind → Bool
  | int8 | int16 | int32 | int64 => true
  | uint8 | uint16 | uint32 | uint64 => false

/-- The least value of the kind. -/
def min (k : IntKind) : Int := if k.signed then -(twoTo (k.bits - 1) : Int) else 0

/-- The greatest value of the kind. -/
def max (k : IntKind) : Int := twoTo (if k.signed then k.bits - 1 else k.bits) - 1

end IntKind

/-- An integer in the range of its kind. -/
structure FixedInt (k : IntKind) where
  val : Int
  min_le : k.min ≤ val
  le_max : val ≤ k.max
deriving DecidableEq, Repr

namespace FixedInt

/-- The integer as a value of the kind, if it is in range. -/
def ofInt? (k : IntKind) (n : Int) : Option (FixedInt k) :=
  if h : k.min ≤ n ∧ n ≤ k.max then some ⟨n, h.1, h.2⟩ else none

/-- The value of the kind nearest to the integer. -/
def clamp (k : IntKind) (n : Int) : FixedInt k :=
  if h : k.min ≤ n ∧ n ≤ k.max then ⟨n, h.1, h.2⟩
  else if n < k.min then ⟨k.min, Int.le_refl _, by cases k <;> decide⟩
  else ⟨k.max, by cases k <;> decide, Int.le_refl _⟩

@[ext] theorem ext {k : IntKind} {a b : FixedInt k} (h : a.val = b.val) : a = b := by
  cases a; cases b; cases h; rfl

theorem ofInt?_eq_some_iff {k : IntKind} {n : Int} {v : FixedInt k} :
    ofInt? k n = some v ↔ v.val = n := by
  unfold ofInt?
  split
  · rename_i h
    constructor
    · intro e
      cases e
      rfl
    · rintro rfl
      rfl
  · rename_i h
    constructor
    · intro e
      cases e
    · rintro rfl
      exact absurd ⟨v.min_le, v.le_max⟩ h

@[simp] theorem ofInt?_val {k : IntKind} (v : FixedInt k) : ofInt? k v.val = some v :=
  ofInt?_eq_some_iff.2 rfl

end FixedInt

end EntitySql
