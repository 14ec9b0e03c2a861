import Mathlib.Algebra.Order.Floor.Ring
import Mathlib.Data.Rat.Floor
import Mathlib.Tactic.Linarith
import Mathlib.Tactic.NormNum

/-!
# `Lib.Float64` — double-precision arithmetic on rationals

A finite double is a rational with a 53-bit significand, and `+`, `*`, `/` return the exact result
rounded to the nearest such rational, ties to the even significand. That is all a program does with
doubles that are neither very large nor very small, so overflow and subnormals are left out.

Rounding moves a number by at most `2 ^ -53` of itself (`abs_round_sub_le`), whatever its size, and it
keeps the order of numbers (`round_le_round_of_nonneg`).
-/

namespace Lib.Float64

/-- Round to the nearest integer, ties to even. -/
def roundHalfEven (q : ℚ) : ℤ :=
  let below := ⌊q⌋
  if q - below < 1 / 2 then below
  else if 1 / 2 < q - below then below + 1
  else if below % 2 = 0 then below else below + 1

/-- The binary exponent: `2 ^ e ≤ |q| < 2 ^ (e + 1)` for `q ≠ 0`. -/
def exponent (q : ℚ) : ℤ :=
  let e : ℤ := (Nat.log2 q.num.natAbs : ℤ) - Nat.log2 q.den
  if (2 : ℚ) ^ e ≤ |q| then e else e - 1

/-- The nearest double. -/
def round (q : ℚ) : ℚ :=
  if q = 0 then 0
  else
    let ulp : ℚ := (2 : ℚ) ^ (exponent q - 52)
    roundHalfEven (q / ulp) * ulp

def add (a b : ℚ) : ℚ := round (a + b)

def sub (a b : ℚ) : ℚ := round (a - b)

def mul (a b : ℚ) : ℚ := round (a * b)

def div (a b : ℚ) : ℚ := round (a / b)

/-- Conversion to an integer type drops the fraction. -/
def toInt (q : ℚ) : ℤ := if 0 ≤ q then ⌊q⌋ else ⌈q⌉

/-! ## The rounding error -/

theorem abs_roundHalfEven_sub_le (q : ℚ) : |(roundHalfEven q : ℚ) - q| ≤ 1 / 2 := by
  have hfloor : (⌊q⌋ : ℚ) ≤ q := Int.floor_le q
  have hlt : q < ⌊q⌋ + 1 := Int.lt_floor_add_one q
  unfold roundHalfEven
  simp only
  rw [abs_le]
  split_ifs with hbelow habove heven
  all_goals
    push_cast
    constructor <;> linarith

theorem abs_eq_natAbs_div (q : ℚ) : |q| = q.num.natAbs / q.den := by
  rw [Nat.cast_natAbs, Int.cast_abs]
  conv_lhs => rw [← Rat.num_div_den q]
  rw [abs_div, Nat.abs_cast]

/-- The exponent is not too large. -/
theorem two_zpow_exponent_le {q : ℚ} (hq : q ≠ 0) : (2 : ℚ) ^ exponent q ≤ |q| := by
  unfold exponent
  simp only
  split_ifs with h
  · exact h
  · have hnum : (2 : ℚ) ^ Nat.log2 q.num.natAbs ≤ q.num.natAbs := by
      exact_mod_cast Nat.log2_self_le (Int.natAbs_ne_zero.mpr (Rat.num_ne_zero.mpr hq))
    have hden : (q.den : ℚ) ≤ 2 ^ (Nat.log2 q.den + 1) := by
      exact_mod_cast Nat.lt_log2_self.le
    have hpos : (0 : ℚ) < q.den := by exact_mod_cast q.den_pos
    rw [abs_eq_natAbs_div, le_div_iff₀ hpos]
    calc (2 : ℚ) ^ ((Nat.log2 q.num.natAbs : ℤ) - Nat.log2 q.den - 1) * q.den
        ≤ (2 : ℚ) ^ ((Nat.log2 q.num.natAbs : ℤ) - Nat.log2 q.den - 1) *
            2 ^ (Nat.log2 q.den + 1) :=
          mul_le_mul_of_nonneg_left hden (zpow_nonneg (by norm_num) _)
      _ = (2 : ℚ) ^ Nat.log2 q.num.natAbs := by
          rw [← zpow_natCast, ← zpow_natCast, ← zpow_add₀ (by norm_num)]
          congr 1
          push_cast
          ring
      _ ≤ q.num.natAbs := hnum

/-- **The relative error of rounding** is at most `2 ^ -53`. -/
theorem abs_round_sub_le (q : ℚ) : |round q - q| ≤ |q| / 2 ^ 53 := by
  unfold round
  split_ifs with hq
  · simp [hq]
  · have hulp : (0 : ℚ) < 2 ^ (exponent q - 52) := zpow_pos (by norm_num) _
    have herror := abs_roundHalfEven_sub_le (q / 2 ^ (exponent q - 52))
    calc |(roundHalfEven (q / 2 ^ (exponent q - 52)) : ℚ) * 2 ^ (exponent q - 52) - q|
        = |(roundHalfEven (q / 2 ^ (exponent q - 52)) : ℚ) - q / 2 ^ (exponent q - 52)| *
            2 ^ (exponent q - 52) := by
          rw [← abs_of_pos hulp, ← abs_mul, abs_of_pos hulp, sub_mul, div_mul_cancel₀ _ hulp.ne']
      _ ≤ 1 / 2 * 2 ^ (exponent q - 52) := mul_le_mul_of_nonneg_right herror hulp.le
      _ = 2 ^ exponent q / 2 ^ 53 := by
          rw [zpow_sub₀ (by norm_num)]
          norm_num
          ring
      _ ≤ |q| / 2 ^ 53 := div_le_div_of_nonneg_right (two_zpow_exponent_le hq) (by norm_num)

theorem round_mem_of_nonneg {q : ℚ} (hq : 0 ≤ q) :
    q * (1 - 1 / 2 ^ 53) ≤ round q ∧ round q ≤ q * (1 + 1 / 2 ^ 53) := by
  have h := abs_le.mp (abs_round_sub_le q)
  rw [abs_of_nonneg hq] at h
  exact ⟨by linarith [h.1], by linarith [h.2]⟩

theorem round_le_of_nonpos {q : ℚ} (hq : q ≤ 0) : round q ≤ q * (1 - 1 / 2 ^ 53) := by
  have h := (abs_le.mp (abs_round_sub_le q)).2
  rw [abs_of_nonpos hq] at h
  linarith

theorem mul_mem_of_nonneg {a b : ℚ} (h : 0 ≤ a * b) :
    a * b * (1 - 1 / 2 ^ 53) ≤ mul a b ∧ mul a b ≤ a * b * (1 + 1 / 2 ^ 53) :=
  round_mem_of_nonneg h

theorem div_mem_of_nonneg {a b : ℚ} (h : 0 ≤ a / b) :
    a / b * (1 - 1 / 2 ^ 53) ≤ div a b ∧ div a b ≤ a / b * (1 + 1 / 2 ^ 53) :=
  round_mem_of_nonneg h

theorem mul_le_of_nonpos {a b : ℚ} (h : a * b ≤ 0) : mul a b ≤ a * b * (1 - 1 / 2 ^ 53) :=
  round_le_of_nonpos h

theorem div_le_of_nonpos {a b : ℚ} (h : a / b ≤ 0) : div a b ≤ a / b * (1 - 1 / 2 ^ 53) :=
  round_le_of_nonpos h

/-- **A quotient that is scaled**: two roundings. -/
theorem abs_mul_div_sub_le (a b c : ℚ) : |mul (div a b) c - a / b * c| ≤ |a / b * c| / 2 ^ 51 := by
  have hdiv : |div a b - a / b| ≤ |a / b| / 2 ^ 53 := abs_round_sub_le (a / b)
  have hmul : |mul (div a b) c - div a b * c| ≤ |div a b * c| / 2 ^ 53 := abs_round_sub_le (div a b * c)
  have hscaled : |div a b * c - a / b * c| ≤ |a / b * c| / 2 ^ 53 := by
    rw [← sub_mul, abs_mul, abs_mul]
    calc |div a b - a / b| * |c| ≤ |a / b| / 2 ^ 53 * |c| := mul_le_mul_of_nonneg_right hdiv (abs_nonneg c)
      _ = _ := by ring
  have hsize := abs_sub_abs_le_abs_sub (div a b * c) (a / b * c)
  have htotal := abs_sub_le (mul (div a b) c) (div a b * c) (a / b * c)
  have hnonneg := abs_nonneg (a / b * c)
  linarith

/-! ## Rounding keeps the order -/

/-- The exponent is not too small either. -/
theorem lt_two_zpow_exponent (q : ℚ) : |q| < (2 : ℚ) ^ (exponent q + 1) := by
  have hnum : (q.num.natAbs : ℚ) < 2 ^ (Nat.log2 q.num.natAbs + 1) := by
    exact_mod_cast Nat.lt_log2_self
  have hden : (2 : ℚ) ^ Nat.log2 q.den ≤ q.den := by
    exact_mod_cast Nat.log2_self_le q.den_pos.ne'
  have hpos : (0 : ℚ) < q.den := by exact_mod_cast q.den_pos
  unfold exponent
  simp only
  split_ifs with h
  · rw [abs_eq_natAbs_div, div_lt_iff₀ hpos]
    calc (q.num.natAbs : ℚ) < 2 ^ (Nat.log2 q.num.natAbs + 1) := hnum
      _ = (2 : ℚ) ^ ((Nat.log2 q.num.natAbs : ℤ) - Nat.log2 q.den + 1) * 2 ^ Nat.log2 q.den := by
          rw [← zpow_natCast, ← zpow_natCast, ← zpow_add₀ (by norm_num)]
          congr 1
          push_cast
          ring
      _ ≤ (2 : ℚ) ^ ((Nat.log2 q.num.natAbs : ℤ) - Nat.log2 q.den + 1) * q.den :=
          mul_le_mul_of_nonneg_left hden (zpow_nonneg (by norm_num) _)
  · rw [sub_add_cancel]
    exact not_le.mp h

theorem roundHalfEven_intCast (n : ℤ) : roundHalfEven n = n := by
  simp [roundHalfEven]

theorem roundHalfEven_mono {a b : ℚ} (h : a ≤ b) : roundHalfEven a ≤ roundHalfEven b := by
  have hfloor : ⌊a⌋ ≤ ⌊b⌋ := Int.floor_le_floor h
  rcases hfloor.eq_or_lt with heq | hlt
  · -- on one side of the same integer, only the fractions count
    unfold roundHalfEven
    simp only
    rw [heq]
    split_ifs
    all_goals first | omega | linarith
  · have ha : roundHalfEven a ≤ ⌊a⌋ + 1 := by
      unfold roundHalfEven
      simp only
      split_ifs <;> omega
    have hb : ⌊b⌋ ≤ roundHalfEven b := by
      unfold roundHalfEven
      simp only
      split_ifs <;> omega
    omega

/-- A positive number rounds to between the powers of two around it. -/
theorem round_mem_of_pos {q : ℚ} (hq : 0 < q) :
    (2 : ℚ) ^ exponent q ≤ round q ∧ round q ≤ 2 ^ (exponent q + 1) := by
  have hulp : (0 : ℚ) < 2 ^ (exponent q - 52) := zpow_pos (by norm_num) _
  have h52 : (2 : ℚ) ^ exponent q = ((2 ^ 52 : ℤ) : ℚ) * 2 ^ (exponent q - 52) := by
    rw [Int.cast_pow, Int.cast_ofNat, ← zpow_natCast, ← zpow_add₀ (by norm_num)]
    congr 1
    push_cast
    ring
  have h53 : (2 : ℚ) ^ (exponent q + 1) = ((2 ^ 53 : ℤ) : ℚ) * 2 ^ (exponent q - 52) := by
    rw [Int.cast_pow, Int.cast_ofNat, ← zpow_natCast, ← zpow_add₀ (by norm_num)]
    congr 1
    push_cast
    ring
  have hlow : ((2 ^ 52 : ℤ) : ℚ) ≤ q / 2 ^ (exponent q - 52) := by
    rw [le_div_iff₀ hulp, ← h52]
    simpa [abs_of_pos hq] using two_zpow_exponent_le hq.ne'
  have hhigh : q / 2 ^ (exponent q - 52) ≤ ((2 ^ 53 : ℤ) : ℚ) := by
    rw [div_le_iff₀ hulp, ← h53]
    simpa [abs_of_pos hq] using (lt_two_zpow_exponent q).le
  have hlow' := roundHalfEven_mono hlow
  have hhigh' := roundHalfEven_mono hhigh
  rw [roundHalfEven_intCast] at hlow' hhigh'
  rw [round, if_neg hq.ne', h52, h53]
  exact ⟨mul_le_mul_of_nonneg_right (by exact_mod_cast hlow') hulp.le,
    mul_le_mul_of_nonneg_right (by exact_mod_cast hhigh') hulp.le⟩

theorem round_nonneg {q : ℚ} (hq : 0 ≤ q) : 0 ≤ round q :=
  le_trans (mul_nonneg hq (by norm_num)) (round_mem_of_nonneg hq).1

/-- **Rounding is monotone** on nonnegative numbers. -/
theorem round_le_round_of_nonneg {a b : ℚ} (ha : 0 ≤ a) (h : a ≤ b) : round a ≤ round b := by
  rcases ha.eq_or_lt with rfl | ha
  · rw [show round 0 = 0 by simp [round]]
    exact round_nonneg h
  have hb : 0 < b := lt_of_lt_of_le ha h
  rcases lt_trichotomy (exponent a) (exponent b) with hlt | heq | hgt
  · -- a power of two separates them
    calc round a ≤ 2 ^ (exponent a + 1) := (round_mem_of_pos ha).2
      _ ≤ 2 ^ exponent b := zpow_le_zpow_right₀ (by norm_num) hlt
      _ ≤ round b := (round_mem_of_pos hb).1
  · have hulp : (0 : ℚ) < 2 ^ (exponent b - 52) := zpow_pos (by norm_num) _
    rw [round, if_neg ha.ne', round, if_neg hb.ne', heq]
    refine mul_le_mul_of_nonneg_right ?_ hulp.le
    exact_mod_cast roundHalfEven_mono (div_le_div_of_nonneg_right h hulp.le)
  · have hb' := lt_two_zpow_exponent b
    have ha' := two_zpow_exponent_le ha.ne'
    rw [abs_of_pos hb] at hb'
    rw [abs_of_pos ha] at ha'
    have hpow : (2 : ℚ) ^ (exponent b + 1) ≤ 2 ^ exponent a :=
      zpow_le_zpow_right₀ (by norm_num) hgt
    linarith

/-! ## Conversion to an integer -/

theorem le_toInt {n : ℤ} {q : ℚ} (hn : 0 ≤ n) (h : (n : ℚ) ≤ q) : n ≤ toInt q := by
  have hq : 0 ≤ q := le_trans (by exact_mod_cast hn) h
  rw [toInt, if_pos hq]
  exact Int.le_floor.mpr h

theorem toInt_lt {n : ℤ} {q : ℚ} (hn : 0 < n) (h : q < n) : toInt q < n := by
  unfold toInt
  split
  · exact Int.floor_lt.mpr h
  · rename_i hq
    have hceil : ⌈q⌉ ≤ 0 := Int.ceil_le.mpr (by simpa using (not_le.mp hq).le)
    omega

theorem lt_toInt {n : ℤ} {q : ℚ} (hn : n < 0) (h : n < q) : n < toInt q := by
  unfold toInt
  split
  · rename_i hq
    exact lt_of_lt_of_le hn (Int.floor_nonneg.mpr hq)
  · exact Int.lt_ceil.mpr h

theorem toInt_le {n : ℤ} {q : ℚ} (hn : n < 0) (h : q ≤ n) : toInt q ≤ n := by
  have hq : ¬ 0 ≤ q := not_le.mpr (lt_of_le_of_lt h (by exact_mod_cast hn))
  rw [toInt, if_neg hq]
  exact Int.ceil_le.mpr h

end Lib.Float64
