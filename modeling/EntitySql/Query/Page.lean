/-!
# Pages

A window is a number of rows after a number of rows passed over. A page request asks for a window
by the number of a page or by an explicit offset, and is filled with the total count and the rows.

Counts are words of 64 bits; products and sums that do not fit stand for the greatest count.
-/

namespace EntitySql

set_option autoImplicit false

/-- The count nearest to a number. -/
def saturate (n : Nat) : UInt64 :=
  if h : n < UInt64.size then UInt64.ofNatLT n h
  else UInt64.ofNatLT (UInt64.size - 1) (by decide)

/-- Saturation takes the lesser of the number and the greatest count. -/
theorem toNat_saturate (n : Nat) : (saturate n).toNat = min n (UInt64.size - 1) := by
  unfold saturate
  split
  · rw [UInt64.toNat_ofNatLT]
    omega
  · rw [UInt64.toNat_ofNatLT]
    omega

/-- The rows from `offset + 1` to `offset + size`. -/
structure PageWindow where
  offset : UInt64
  size : UInt64
deriving DecidableEq, Repr

namespace PageWindow

/-- The number of the last row of the window. -/
def last (w : PageWindow) : UInt64 := saturate (w.offset.toNat + w.size.toNat)

end PageWindow

/-- A page to fetch. -/
structure PageRequest (α : Type) where
  /-- The number of the page, counted from one. -/
  page : UInt64
  size : UInt64
  /-- Rows to pass over; if given, the number of the page does not matter. -/
  offset : Option UInt64
  total : Option UInt64
  rows : List α

namespace PageRequest

variable {α : Type}

/-- The request of a page by number. -/
def ofPage (page size : UInt64) : PageRequest α := ⟨page, size, none, none, []⟩

/-- The request of a page by offset. -/
def ofOffset (offset size : UInt64) : PageRequest α := ⟨1, size, some offset, none, []⟩

/-- The window asked for. Page zero is page one. -/
def window (r : PageRequest α) : PageWindow where
  offset := r.offset.getD (saturate ((r.page.toNat - 1) * r.size.toNat))
  size := r.size

/-- The request with its results. -/
def fill (r : PageRequest α) (total : UInt64) (rows : List α) : PageRequest α :=
  { r with total := some total, rows }

/-- How many pages there are, once the total is known. -/
def pages (r : PageRequest α) : Option UInt64 :=
  r.total.map fun total =>
    if r.size = 0 then 0
    else saturate ((total.toNat + r.size.toNat - 1) / r.size.toNat)

end PageRequest

/-- Whether rows are paged, and whether they are ordered then. -/
inductive PageState where
  | unpaged
  | ordered (window : PageWindow)
  | unordered (window : PageWindow)
deriving DecidableEq, Repr

namespace PageState

/-- The state of a window that may be absent. -/
def ofWindow (window : Option PageWindow) (isOrdered : Bool) : PageState :=
  match window, isOrdered with
  | none, _ => unpaged
  | some w, true => ordered w
  | some w, false => unordered w

/-- The window, if rows are paged. -/
def window? : PageState → Option PageWindow
  | unpaged => none
  | ordered w | unordered w => some w

/-- The name of the state. -/
def name : PageState → String
  | unpaged => "Unpaged"
  | ordered _ => "Ordered"
  | unordered _ => "Unordered"

end PageState

end EntitySql
