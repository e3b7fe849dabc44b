import Mathlib.Algebra.Order.Ring.Int
import Mathlib.Data.Int.ConditionallyCompleteOrder
import Mathlib.Tactic.Linarith
import Mathlib.Tactic.Ring

/-!
# Grids

Cells of one size stand in a row, with a margin before the first and a gap between any two.
The cells of a grid are numbered row by row, so that an index is known from its column and its
row.
-/

namespace TowerDefence.Foundations

/-! ## Rows of cells -/

section Cells

variable {margin size gap count a b : Int}

/-- Where a cell starts. -/
def cellStart (margin size gap cell : Int) : Int := margin + cell * (size + gap)

theorem cellStart_nonneg (marginNonneg : 0 ≤ margin) (sizeNonneg : 0 ≤ size)
    (gapNonneg : 0 ≤ gap) (cell : 0 ≤ a) : 0 ≤ cellStart margin size gap a :=
  add_nonneg marginNonneg (mul_nonneg cell (add_nonneg sizeNonneg gapNonneg))

/-- A cell ends before the next one starts. -/
theorem cellEnd_le_cellStart (sizeNonneg : 0 ≤ size) (gapNonneg : 0 ≤ gap) (before : a < b) :
    cellStart margin size gap a + size ≤ cellStart margin size gap b := by
  have steps : 1 * (size + gap) ≤ (b - a) * (size + gap) :=
    mul_le_mul_of_nonneg_right (by omega) (add_nonneg sizeNonneg gapNonneg)
  unfold cellStart
  linarith [sub_mul b a (size + gap)]

/-- The last of `count` cells ends with their extent. -/
theorem cellEnd_le_extent (sizeNonneg : 0 ≤ size) (gapNonneg : 0 ≤ gap) (inside : a < count) :
    cellStart margin size gap a + size ≤ margin + count * size + (count - 1) * gap := by
  have steps : a * (size + gap) ≤ (count - 1) * (size + gap) :=
    mul_le_mul_of_nonneg_right (by omega) (add_nonneg sizeNonneg gapNonneg)
  unfold cellStart
  linarith [mul_add (count - 1) size gap, sub_mul count 1 size]

end Cells

/-! ## Numbering -/

section Numbering

variable {columns count a b : Int}

/-- The rows that `count` cells take. -/
def rowsFor (columns count : Int) : Int := (count + columns - 1) / columns

theorem row_lt_rowsFor (positive : 0 < columns) (inside : a < count) :
    a / columns < rowsFor columns count := by
  have next : a / columns + 1 = (a + 1 * columns) / columns :=
    (Int.add_mul_ediv_right a 1 positive.ne').symm
  have atMost : (a + 1 * columns) / columns ≤ rowsFor columns count :=
    Int.ediv_le_ediv positive (by omega)
  omega

/-- Different cells are in different columns or in different rows. -/
theorem column_ne_or_row_ne (different : a ≠ b) :
    a % columns ≠ b % columns ∨ a / columns ≠ b / columns := by
  by_contra same
  rw [not_or, not_not, not_not] at same
  apply different
  rw [← Int.mul_ediv_add_emod a columns, ← Int.mul_ediv_add_emod b columns, same.1, same.2]

end Numbering

end TowerDefence.Foundations
