import EntitySql.Proofs.Paging.Windows
import Mathlib.Logic.ExistsUnique

/-!
# Pages of numbered rows

Rows are numbered from one. A request by number asks for the window of its page, which passes over
as many full pages as come before it; with the total filled in, it tells how many pages there are.

The windows of these pages, cut off at the last row, split the rows: none is empty, each one starts
where the one before ends, and every row is on exactly one of them. All later pages start behind
the last row (`PageRequest.windows_split`).

Products and sums of counts saturate. A count that does stands behind all rows there can be, so a
window selects the rows that the exact numbers say (`PageWindow.covers_iff`,
`PageRequest.covers_page_iff`).
-/

namespace EntitySql

set_option autoImplicit false

namespace PageWindow

/-- The row of a number is in the window. -/
def Covers (w : PageWindow) (row : Nat) : Prop := w.offset.toNat < row ∧ row ≤ w.last.toNat

/-- **A saturated sum selects the same rows:** none has a number beyond the greatest count. -/
theorem covers_iff (w : PageWindow) {row : Nat} (counted : row < UInt64.size) :
    w.Covers row ↔ w.offset.toNat < row ∧ row ≤ w.offset.toNat + w.size.toNat := by
  rw [Covers, last_toNat]
  omega

end PageWindow

namespace PageRequest

variable {α : Type} {page size total : UInt64} {row : Nat}

theorem one_le_iff {p : UInt64} : 1 ≤ p ↔ 1 ≤ p.toNat := UInt64.le_iff_toNat_le

/-! ## The window of a page -/

theorem offset_page (page size : UInt64) :
    (ofPage page size : PageRequest α).window.offset.toNat =
      min ((page.toNat - 1) * size.toNat) (UInt64.size - 1) := toNat_saturate _

/-- **A saturated product selects the same rows:** the rows after the full pages before. -/
theorem covers_page_iff (counted : row < UInt64.size) :
    (ofPage page size : PageRequest α).window.Covers row ↔
      (page.toNat - 1) * size.toNat < row ∧
        row ≤ (page.toNat - 1) * size.toNat + size.toNat := by
  rw [PageWindow.covers_iff _ counted, offset_page]
  show _ ∧ row ≤ _ + size.toNat ↔ _
  omega

/-- The page of a row is its number, counted from zero, divided by the size. -/
theorem covers_page_iff_div (positive : 0 < size) (counted : row < UInt64.size) :
    (ofPage page size : PageRequest α).window.Covers row ↔
      1 ≤ row ∧ (row - 1) / size.toNat = page.toNat - 1 := by
  have some_rows : 0 < size.toNat := UInt64.lt_iff_toNat_lt.1 positive
  rw [covers_page_iff counted, Nat.div_eq_iff some_rows]
  omega

/-! ## The number of pages -/

/-- The number of pages does not saturate: there are no more pages than rows. -/
theorem pages_fill (positive : 0 < size) (page total : UInt64) (rows : List α) :
    ((ofPage page size).fill total rows).pages =
        some (saturate ((total.toNat + size.toNat - 1) / size.toNat)) ∧
      (saturate ((total.toNat + size.toNat - 1) / size.toNat)).toNat =
        (total.toNat + size.toNat - 1) / size.toNat := by
  have some_rows : 0 < size.toNat := UInt64.lt_iff_toNat_lt.1 positive
  have proper : size ≠ 0 := by
    rintro rfl
    exact absurd positive (by decide)
  have bounded : (total.toNat + size.toNat - 1) / size.toNat ≤ total.toNat := by
    have product : total.toNat ≤ total.toNat * size.toNat := Nat.le_mul_of_pos_right _ some_rows
    rw [Nat.div_le_iff_le_mul_add_pred some_rows, Nat.mul_comm]
    omega
  have greatest : total.toNat < UInt64.size := total.toNat_lt
  refine ⟨?_, ?_⟩
  · show some (if size = 0 then 0 else _) = _
    rw [if_neg proper]
    rfl
  · rw [toNat_saturate]
    omega

/-- Pages up to the last one split the rows up to the total. -/
structure SplitBy (α : Type) (size total last : UInt64) : Prop where
  /-- No page is empty. -/
  nonempty : ∀ p, 1 ≤ p → p ≤ last →
    ∃ row ≤ total.toNat, (ofPage p size : PageRequest α).window.Covers row
  /-- The first page passes over nothing. -/
  first : (ofPage 1 size : PageRequest α).window.offset = 0
  /-- Every other page passes over the rows up to the last one of the page before. -/
  consecutive : ∀ p q : UInt64, 1 ≤ p → q.toNat = p.toNat + 1 → q ≤ last →
    (ofPage q size : PageRequest α).window.offset = (ofPage p size : PageRequest α).window.last
  /-- Every row is on exactly one page, and no other number is. -/
  unique : ∀ row ≤ total.toNat, 1 ≤ row ↔
    ∃! p, (1 ≤ p ∧ p ≤ last) ∧ (ofPage p size : PageRequest α).window.Covers row
  /-- Every later page starts behind the last row. -/
  beyond : ∀ p, last < p → total ≤ (ofPage p size : PageRequest α).window.offset

variable {last : UInt64}

/-- A page is one of them exactly when a row is left after the full pages before it. -/
theorem lt_last_iff (positive : 0 < size)
    (counted : last.toNat = (total.toNat + size.toNat - 1) / size.toNat) (p : UInt64) :
    p.toNat - 1 < last.toNat ↔ (p.toNat - 1) * size.toNat < total.toNat := by
  have some_rows : 0 < size.toNat := UInt64.lt_iff_toNat_lt.1 positive
  rw [counted, Nat.lt_iff_add_one_le, Nat.le_div_iff_mul_le some_rows, Nat.add_mul]
  omega

/-- The page of a row is one of them. -/
theorem exists_page (positive : 0 < size)
    (counted : last.toNat = (total.toNat + size.toNat - 1) / size.toNat) (fromOne : 1 ≤ row)
    (inTotal : row ≤ total.toNat) :
    ∃ p : UInt64, p.toNat = (row - 1) / size.toNat + 1 ∧ p ≤ last := by
  have small := Nat.div_le_self (row - 1) size.toNat
  have low := Nat.div_mul_le_self (row - 1) size.toNat
  generalize (row - 1) / size.toNat = before at small low
  have fits : before + 1 < UInt64.size := by
    have greatest : total.toNat < UInt64.size := total.toNat_lt
    omega
  refine ⟨.ofNatLT (before + 1) fits, UInt64.toNat_ofNatLT, ?_⟩
  have left := lt_last_iff positive counted (.ofNatLT (before + 1) fits)
  rw [UInt64.toNat_ofNatLT, Nat.add_sub_cancel] at left
  rw [UInt64.le_iff_toNat_le, UInt64.toNat_ofNatLT]
  exact left.2 (by omega)

/-- **Pages up to the rounded quotient split the rows.** -/
theorem splitBy_of_toNat (positive : 0 < size)
    (counted : last.toNat = (total.toNat + size.toNat - 1) / size.toNat) :
    SplitBy α size total last where
  nonempty p fromOne upToLast := by
    rw [one_le_iff] at fromOne
    rw [UInt64.le_iff_toNat_le] at upToLast
    have greatest : total.toNat < UInt64.size := total.toNat_lt
    have some_rows : 0 < size.toNat := UInt64.lt_iff_toNat_lt.1 positive
    have left := (lt_last_iff positive counted p).1 (by omega)
    refine ⟨(p.toNat - 1) * size.toNat + 1, by omega, ?_⟩
    rw [covers_page_iff (by omega)]
    omega
  first := by
    rw [← UInt64.toNat_inj, offset_page, show (1 : UInt64).toNat - 1 = 0 from rfl, Nat.zero_mul]
    rfl
  consecutive p q fromOne next upToLast := by
    rw [one_le_iff] at fromOne
    rw [UInt64.le_iff_toNat_le] at upToLast
    have before : q.toNat - 1 = p.toNat - 1 + 1 := by omega
    have left := (lt_last_iff positive counted q).1 (by omega)
    rw [before, Nat.add_mul] at left
    have greatest : total.toNat < UInt64.size := total.toNat_lt
    rw [← UInt64.toNat_inj, PageWindow.last_toNat, offset_page, offset_page, before, Nat.add_mul]
    show _ = min (_ + size.toNat) _
    omega
  unique row inTotal := by
    have counts : row < UInt64.size := Nat.lt_of_le_of_lt inTotal total.toNat_lt
    constructor
    · intro fromOne
      obtain ⟨p, number, upToLast⟩ := exists_page positive counted fromOne inTotal
      refine ⟨p, ⟨⟨?_, upToLast⟩, ?_⟩, ?_⟩
      · rw [one_le_iff, number]
        exact Nat.le_add_left 1 _
      · rw [covers_page_iff_div positive counts, number]
        exact ⟨fromOne, rfl⟩
      · rintro q ⟨⟨isPage, _⟩, covered⟩
        rw [covers_page_iff_div positive counts] at covered
        rw [one_le_iff] at isPage
        rw [← UInt64.toNat_inj, number, covered.2]
        exact (Nat.sub_add_cancel isPage).symm
    · rintro ⟨p, ⟨_, covered⟩, _⟩
      exact Nat.one_le_of_lt covered.1
  beyond p later := by
    rw [UInt64.lt_iff_toNat_lt] at later
    have none_left : ¬(p.toNat - 1) * size.toNat < total.toNat := by
      rw [← lt_last_iff positive counted]
      omega
    have greatest : total.toNat < UInt64.size := total.toNat_lt
    rw [UInt64.le_iff_toNat_le, offset_page]
    omega

/-- **The windows of the pages split the rows.** For every total and every size but zero, a request
that is filled tells the number of pages. Up to it no page is empty, each one starts where the one
before ends, and every row is on exactly one; later pages start behind the last row. Page zero is
page one. No saturation shows: the rows of a window, by number or by offset, are those of the exact
products and sums. -/
theorem windows_split {size : UInt64} (positive : 0 < size) (total : UInt64) :
    ∃ last : UInt64,
      (∀ page (rows : List α), ((ofPage page size).fill total rows).pages = some last) ∧
      SplitBy α size total last ∧
      (ofPage 0 size : PageRequest α).window = (ofPage 1 size : PageRequest α).window ∧
      (∀ page, ∀ row ≤ total.toNat, (ofPage page size : PageRequest α).window.Covers row ↔
        (page.toNat - 1) * size.toNat < row ∧
          row ≤ (page.toNat - 1) * size.toNat + size.toNat) ∧
      ∀ offset, ∀ row ≤ total.toNat, (ofOffset offset size : PageRequest α).window.Covers row ↔
        offset.toNat < row ∧ row ≤ offset.toNat + size.toNat := by
  have greatest : total.toNat < UInt64.size := total.toNat_lt
  refine ⟨_, fun page rows => (pages_fill positive page total rows).1,
    splitBy_of_toNat positive (pages_fill (α := α) positive 1 total []).2, rfl, ?_, ?_⟩
  · intro page row inTotal
    exact covers_page_iff (by omega)
  · intro offset row inTotal
    exact PageWindow.covers_iff _ (by omega)

/-- Pages of the greatest size: the second one would start behind the greatest count. -/
theorem windows_split_widest :
    (0 : UInt64) < 18446744073709551615 ∧
      ∃ last : UInt64, (∀ page (rows : List Nat),
          ((ofPage page 18446744073709551615).fill 18446744073709551615 rows).pages =
            some last) ∧
        SplitBy Nat 18446744073709551615 18446744073709551615 last := by
  have positive : (0 : UInt64) < 18446744073709551615 := by decide
  obtain ⟨last, pages, split, _⟩ := windows_split (α := Nat) positive 18446744073709551615
  exact ⟨positive, last, pages, split⟩

end PageRequest

end EntitySql
