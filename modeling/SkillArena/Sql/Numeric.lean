/-
**Fixed-point columns.**

A numeric column keeps a rounded copy of what is written to it. `Numeric` is a rounding with the laws
the money proofs use; `Numeric.exact` keeps every rational, `Numeric.scale n` keeps `n` decimals and
rounds half away from zero. A kept value in two parts, each rounded, adds up to it exactly if the parts
are no halves of the unit (`Numeric.scale_parts`).
-/

import Mathlib.Data.Int.ConditionallyCompleteOrder
import Mathlib.Data.Rat.Floor
import Mathlib.Order.Monotone.Basic
import Mathlib.Tactic.Linarith
import Mathlib.Tactic.FieldSimp
import Mathlib.Tactic.Positivity
import Mathlib.Tactic.Ring

namespace Sql

/-- **A column rounding**: idempotent, odd, monotone, and the kept values are closed under sums. -/
structure Numeric where
  store : ℚ → ℚ
  store_store : ∀ x, store (store x) = store x
  store_neg : ∀ x, store (-x) = -store x
  store_mono : Monotone store
  store_add : ∀ x y, store x = x → store y = y → store (x + y) = x + y

namespace Numeric

variable (N : Numeric)

@[simp] theorem store_zero : N.store 0 = 0 := by
  have odd := N.store_neg 0
  rw [neg_zero] at odd
  linarith

theorem store_nonneg {x : ℚ} (nonneg : 0 ≤ x) : 0 ≤ N.store x := by
  simpa using N.store_mono nonneg

theorem store_sub {x y : ℚ} (keptX : N.store x = x) (keptY : N.store y = y) :
    N.store (x - y) = x - y := by
  rw [sub_eq_add_neg]
  exact N.store_add x (-y) keptX (by rw [N.store_neg, keptY])

theorem store_natCast_mul {x : ℚ} (kept : N.store x = x) (n : ℕ) : N.store (n * x) = n * x := by
  induction n with
  | zero => simp
  | succ n ih =>
    rw [Nat.cast_succ, add_mul, one_mul]
    exact N.store_add _ _ ih kept

/-- A column of unlimited precision. -/
def exact : Numeric where
  store x := x
  store_store _ := rfl
  store_neg _ := rfl
  store_mono _ _ le := le
  store_add _ _ _ _ := rfl

@[simp] theorem exact_store (x : ℚ) : exact.store x = x := rfl

end Numeric

/-! ### Rounding half away from zero -/

/-- The nearest integer, halves away from zero. -/
def roundHalfAway (x : ℚ) : ℤ := if 0 ≤ x then ⌊x + 1 / 2⌋ else -⌊-x + 1 / 2⌋

theorem roundHalfAway_of_nonneg {x : ℚ} (nonneg : 0 ≤ x) : roundHalfAway x = ⌊x + 1 / 2⌋ :=
  if_pos nonneg

theorem roundHalfAway_neg (x : ℚ) : roundHalfAway (-x) = -roundHalfAway x := by
  unfold roundHalfAway
  rcases lt_trichotomy x 0 with negative | rfl | positive
  · rw [if_pos (by linarith), if_neg (by linarith), neg_neg]
  · norm_num
  · rw [if_neg (by linarith), if_pos positive.le, neg_neg]

@[simp] theorem roundHalfAway_intCast (n : ℤ) : roundHalfAway n = n := by
  have half : ∀ m : ℤ, ⌊(m : ℚ) + 1 / 2⌋ = m := fun m => by
    rw [Int.floor_intCast_add]
    norm_num
  unfold roundHalfAway
  split_ifs with nonneg
  · exact half n
  · have back := half (-n)
    push_cast at back
    omega

theorem roundHalfAway_nonneg {x : ℚ} (nonneg : 0 ≤ x) : 0 ≤ roundHalfAway x := by
  rw [roundHalfAway_of_nonneg nonneg]
  exact Int.floor_nonneg.mpr (by linarith)

theorem roundHalfAway_mono : Monotone roundHalfAway := by
  intro x y le
  by_cases hx : 0 ≤ x
  · rw [roundHalfAway_of_nonneg hx, roundHalfAway_of_nonneg (hx.trans le)]
    exact Int.floor_le_floor (by linarith)
  · have negX : roundHalfAway x ≤ 0 := by
      have := roundHalfAway_nonneg (x := -x) (by linarith)
      rw [roundHalfAway_neg] at this
      omega
    by_cases hy : 0 ≤ y
    · exact negX.trans (roundHalfAway_nonneg hy)
    · unfold roundHalfAway
      rw [if_neg hx, if_neg hy]
      exact neg_le_neg (Int.floor_le_floor (by linarith))

/-- **`NUMERIC(·, digits)`**: the value rounded, half away from zero, to a number of decimals. -/
def Numeric.scale (digits : ℕ) : Numeric where
  store x := roundHalfAway (x * 10 ^ digits) / 10 ^ digits
  store_store x := by
    have unit : (10 : ℚ) ^ digits ≠ 0 := by positivity
    rw [div_mul_cancel₀ _ unit, roundHalfAway_intCast]
  store_neg x := by
    rw [neg_mul, roundHalfAway_neg, Int.cast_neg, neg_div]
  store_mono x y le := by
    have unit : (0 : ℚ) < 10 ^ digits := by positivity
    have scaled : x * 10 ^ digits ≤ y * 10 ^ digits := mul_le_mul_of_nonneg_right le unit.le
    exact div_le_div_of_nonneg_right (Int.cast_le.mpr (roundHalfAway_mono scaled)) unit.le
  store_add x y keptX keptY := by
    have unit : (10 : ℚ) ^ digits ≠ 0 := by positivity
    rw [div_eq_iff unit] at keptX keptY
    rw [add_mul, ← keptX, ← keptY, ← Int.cast_add, roundHalfAway_intCast, Int.cast_add, keptX, keptY,
      ← add_mul, mul_div_cancel_right₀ _ unit]

theorem Numeric.scale_store_natCast (digits n : ℕ) : (Numeric.scale digits).store n = n := by
  have unit : (10 : ℚ) ^ digits ≠ 0 := by positivity
  have whole : (n : ℚ) * 10 ^ digits = ((n * 10 ^ digits : ℤ) : ℚ) := by push_cast; rfl
  show (roundHalfAway (n * 10 ^ digits) : ℚ) / 10 ^ digits = n
  rw [whole, roundHalfAway_intCast, ← whole, mul_div_cancel_right₀ _ unit]

/-! ### Parts of a whole -/

/-- The numbers in the middle between two integers. -/
def IsHalf (x : ℚ) : Prop := ∃ n : ℤ, x = n + 1 / 2

theorem isHalf_iff {x : ℚ} : IsHalf x ↔ x + 1 / 2 ∈ Set.range ((↑) : ℤ → ℚ) := by
  constructor
  · rintro ⟨n, rfl⟩
    exact ⟨n + 1, by push_cast; ring⟩
  · rintro ⟨n, same⟩
    exact ⟨n - 1, by push_cast; linarith⟩

theorem not_isHalf_intCast (n : ℤ) : ¬ IsHalf n := by
  rintro ⟨m, same⟩
  have twice : 2 * n = 2 * m + 1 := by
    have : (2 * n : ℚ) = 2 * m + 1 := by linarith
    exact_mod_cast this
  omega

theorem roundHalfAway_intCast_add {x : ℚ} {n : ℤ} (nonneg : 0 ≤ x) (sum : 0 ≤ n + x) :
    roundHalfAway (n + x) = n + roundHalfAway x := by
  rw [roundHalfAway_of_nonneg nonneg, roundHalfAway_of_nonneg sum, add_assoc, Int.floor_intCast_add]

/-- **Two parts of an integer, each rounded, add up to it** unless they are halves; both halves go up. -/
theorem roundHalfAway_parts {x : ℚ} {n : ℤ} (nonneg : 0 ≤ x) (rest : 0 ≤ n - x) :
    roundHalfAway x + roundHalfAway (n - x) = n ↔ ¬ IsHalf x := by
  have other : (n : ℚ) - x + 1 / 2 = (n + 1 : ℤ) + -(x + 1 / 2) := by
    push_cast
    ring
  rw [roundHalfAway_of_nonneg nonneg, roundHalfAway_of_nonneg rest, other, Int.floor_intCast_add, Int.floor_neg,
    isHalf_iff, ← Int.ceil_eq_floor_add_one_iff_notMem]
  omega

namespace Numeric

variable {digits : ℕ} {x total : ℚ}

theorem scale_store (digits : ℕ) (x : ℚ) :
    (scale digits).store x = roundHalfAway (x * 10 ^ digits) / 10 ^ digits := rfl

theorem scale_kept (kept : (scale digits).store total = total) : ∃ units : ℤ, total * 10 ^ digits = units := by
  have unit : (10 : ℚ) ^ digits ≠ 0 := by positivity
  rw [scale_store, div_eq_iff unit] at kept
  exact ⟨_, kept.symm⟩

/-- A kept value added before rounding is a kept value added after it. -/
theorem scale_store_add (kept : (scale digits).store total = total) (whole : 0 ≤ total) (nonneg : 0 ≤ x) :
    (scale digits).store (total + x) = total + (scale digits).store x := by
  have unit : (0 : ℚ) < 10 ^ digits := by positivity
  obtain ⟨units, same⟩ := scale_kept kept
  have part : 0 ≤ x * 10 ^ digits := by positivity
  have sum : 0 ≤ (units : ℚ) + x * 10 ^ digits := by
    rw [← same]
    positivity
  rw [scale_store, add_mul, same, roundHalfAway_intCast_add part sum, Int.cast_add, ← same, add_div,
    mul_div_cancel_right₀ _ unit.ne', ← scale_store]

/-- **A kept value in two parts, each rounded.** -/
theorem scale_parts (kept : (scale digits).store total = total) (nonneg : 0 ≤ x) (rest : x ≤ total) :
    (scale digits).store x + (scale digits).store (total - x) = total ↔ ¬ IsHalf (x * 10 ^ digits) := by
  have unit : (0 : ℚ) < 10 ^ digits := by positivity
  obtain ⟨units, same⟩ := scale_kept kept
  have part : 0 ≤ x * 10 ^ digits := by positivity
  have other : 0 ≤ (units : ℚ) - x * 10 ^ digits := by
    rw [← same, ← sub_mul]
    exact mul_nonneg (sub_nonneg.mpr rest) unit.le
  rw [← roundHalfAway_parts part other, scale_store, scale_store, sub_mul, same, ← add_div, div_eq_iff unit.ne',
    same, ← Int.cast_add, Int.cast_inj]

end Numeric

end Sql
