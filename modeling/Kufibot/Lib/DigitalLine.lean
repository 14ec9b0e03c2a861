import Mathlib.Data.Int.Notation

/-!
# `Lib.DigitalLine` — the cells of a straight line

A line of the slope `m / n`, with `0 ≤ m ≤ n`, goes through the columns `0` to `n`. In column `i` its cell is
the `j` that is nearest to `i * m / n`, the lower one of two that are as near (`OnLine`). The line starts at
`(0, 0)` and ends at `(n, m)`; from one column to the next it goes up by one cell or stays, and which of the
two is seen from the error of the cell that stays (`OnLine.stay`, `OnLine.up`).
-/

namespace Lib.DigitalLine

/-- How far the cell is above the line, in units of `1 / n`. -/
def offset (n m i j : Int) : Int := j * n - i * m

/-- **The cell of the line** in column `i`: half a cell below the line at most, and less than half above. -/
def OnLine (n m i j : Int) : Prop := -n ≤ 2 * offset n m i j ∧ 2 * offset n m i j < n

theorem offset_zero (n m : Int) : offset n m 0 0 = 0 := by
  unfold offset
  rw [Int.zero_mul, Int.zero_mul, Int.sub_zero]

theorem offset_right (n m i j : Int) : offset n m (i + 1) j = offset n m i j - m := by
  unfold offset
  rw [Int.add_mul, Int.one_mul]
  omega

theorem offset_up (n m i j : Int) : offset n m i (j + 1) = offset n m i j + n := by
  unfold offset
  rw [Int.add_mul, Int.one_mul]
  omega

/-- In the last column. -/
theorem offset_last (n m j : Int) : offset n m n j = (j - m) * n := by
  unfold offset
  rw [Int.sub_mul, Int.mul_comm n m]

namespace OnLine

variable {n m i j : Int}

theorem zero (hn : 0 < n) : OnLine n m 0 0 := by
  unfold OnLine
  rw [offset_zero]
  omega

/-- **The next cell stays** if it is not more than half a cell below the line. -/
theorem stay (h : OnLine n m i j) (hm : 0 ≤ m) (hnear : -n ≤ 2 * (offset n m i j - m)) :
    OnLine n m (i + 1) j := by
  unfold OnLine at h ⊢
  rw [offset_right]
  omega

/-- **The next cell goes up** otherwise. -/
theorem up (h : OnLine n m i j) (hmn : m ≤ n) (hfar : 2 * (offset n m i j - m) < -n) :
    OnLine n m (i + 1) (j + 1) := by
  unfold OnLine at h ⊢
  rw [offset_up, offset_right]
  omega

/-- **The last cell** is the end of the line. -/
theorem last (h : OnLine n m n j) (hn : 0 < n) : j = m := by
  obtain ⟨hlower, hupper⟩ := h
  rw [offset_last, ← Int.mul_assoc] at hlower hupper
  have hle : -1 ≤ 2 * (j - m) := by
    refine Int.le_of_mul_le_mul_right ?_ hn
    rw [Int.neg_mul, Int.one_mul]
    exact hlower
  have hlt : 2 * (j - m) < 1 := by
    refine Int.lt_of_mul_lt_mul_right ?_ (Int.le_of_lt hn)
    rw [Int.one_mul]
    exact hupper
  omega

/-- A cell is no higher than the end. -/
theorem le (h : OnLine n m i j) (hn : 0 < n) (hm : 0 ≤ m) (hi : i ≤ n) : j ≤ m := by
  have hcolumn : i * m ≤ n * m := Int.mul_le_mul_of_nonneg_right hi hm
  have hupper : 2 * (j - m) * n < 1 * n := by
    have h := h.2
    rw [Int.mul_assoc, Int.sub_mul, Int.one_mul, Int.mul_comm m n]
    unfold offset at h
    omega
  have hlt := Int.lt_of_mul_lt_mul_right hupper (Int.le_of_lt hn)
  omega

/-- A cell of a line that is not steeper than the diagonal is less than a column late. -/
theorem lt (h : OnLine n m i j) (hn : 0 < n) (hmn : m ≤ n) : m < 2 * offset n m i j + 2 * n := by
  have hlower := h.1
  rcases Int.lt_or_eq_of_le hmn with hlt | rfl
  · omega
  · -- on the diagonal the offset is a multiple of `m`
    have hoffset : offset m m i j = (j - i) * m := (Int.sub_mul j i m).symm
    have hle : -1 ≤ 2 * (j - i) := by
      refine Int.le_of_mul_le_mul_right ?_ hn
      rw [Int.neg_mul, Int.one_mul, Int.mul_assoc, ← hoffset]
      exact hlower
    have hnonneg : 0 ≤ offset m m i j := by
      rw [hoffset]
      exact Int.mul_nonneg (by omega) (Int.le_of_lt hn)
    omega

end OnLine

end Lib.DigitalLine
