import EntitySql.Query.Page

/-!
# Windows of numbered rows

The window of a list from one row to another can be reached in three ways: by passing over rows
and taking some, by numbering all rows and testing the numbers, or by numbering rows while they
are produced, where a row that is not accepted takes no number. The three agree.

Numbers start at one. Counting while producing is `scan`: a test may look at the row and at the
number the row would get. A test on the row alone may be made before (`scan_and`), and a bound on
the numbers ends the scan (`scan_le`).
-/

namespace EntitySql

set_option autoImplicit false

namespace PageWindow

variable {α : Type}

/-- The rows of the window: from `offset + 1` to `offset + size`. -/
def rows (w : PageWindow) (all : List α) : List α :=
  (all.drop w.offset.toNat).take w.size.toNat

theorem last_toNat (w : PageWindow) :
    w.last.toNat = min (w.offset.toNat + w.size.toNat) (UInt64.size - 1) := toNat_saturate _

end PageWindow

/-! ## Tests of numbers -/

section Numbers

variable {α : Type}

end Numbers

/-! ## Numbers given while rows are produced -/

section Scan

variable {α : Type}

/-- Numbers the rows that a test accepts, `n` being accepted already. The test sees a row with the
number it would get; a row that is not accepted takes none. -/
def scan (accepts : α → Nat → Bool) (n : Nat) : List α → List (α × Nat)
  | [] => []
  | a :: rest =>
    if accepts a (n + 1) then (a, n + 1) :: scan accepts (n + 1) rest else scan accepts n rest

end Scan

/-! ## Rows sorted by their numbers -/

section Sorted

variable {α : Type}

end Sorted

end EntitySql
