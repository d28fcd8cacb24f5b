/-
Numbers that are not larger than others, and shares of numbers.

* `Within`: a number that is finite and not larger than another, whatever its sign;
* `Within.mul`, `Within.add`: shares of numbers are within them, and sums of numbers within the sums
  of those that they are within, as long as these are finite;
* `Within.div`: the quotient of a number by one that it is within is within one;
* `within_of_between`, `between_of_within_one`: what lies between minus one and one is within one,
  and what is within one and not negative lies between zero and one;
* `Within.mul_le_mul`, `not_mul_lt_mul`: a larger share is not smaller, be the number infinite.
-/
import Grading.Proofs.Float.Order
import Grading.Proofs.Float.Quotient

namespace Grading

open Binary64 (Rounds limit rounded value)

variable {x y full full' : Float} {q r : ℚ}

/-! ### Numbers within others -/

lemma value_one : value 1 = 1 := by
  rw [Binary64.value_of_finite (s := .positive) (m := 2 ^ 52) (e := -52) rfl]
  norm_num [Binary64.signed]

/-- Whether a number is finite and not larger than another, whatever its sign. -/
structure Within (x full : Float) : Prop where
  /-- It is finite. -/
  isFinite : x.isFinite = true
  /-- It is not larger. -/
  abs_le : |value x| ≤ value full

namespace Within

lemma nonneg (h : Within x full) : 0 ≤ value full := (abs_nonneg _).trans h.abs_le

/-- Rounding keeps numbers within others. -/
lemma of_rounds (hx : Rounds x q) (hfull : Rounds full r) (hle : |q| ≤ r)
    (hfinite : full.isFinite = true) : Within x full := by
  have hr : 0 ≤ r := (abs_nonneg q).trans hle
  have hrounded : |rounded q| ≤ |rounded r| :=
    Binary64.abs_rounded_le (hle.trans_eq (abs_of_nonneg hr).symm)
  have hx' : x.isFinite = true :=
    hx.isFinite_iff.mpr (hrounded.trans_lt (hfull.isFinite_iff.mp hfinite))
  refine ⟨hx', ?_⟩
  rw [hx.value_eq hx', hfull.value_eq hfinite]
  exact hrounded.trans_eq (abs_of_nonneg (Binary64.rounded_nonneg hr))

/-- A share of a number is within it. -/
lemma mul (hfull : Within full full) (hx : Within x 1) : Within (full * x) full := by
  refine of_rounds (Binary64.rounds_mul hfull.isFinite hx.isFinite)
    (Binary64.rounds_value hfull.isFinite) ?_ hfull.isFinite
  rw [abs_mul, abs_of_nonneg hfull.nonneg]
  exact mul_le_of_le_one_right hfull.nonneg (hx.abs_le.trans_eq value_one)

/-- What a ratio that is not negative takes of a number is not negative. -/
lemma value_mul_nonneg (hfull : Within full full) (hx : Within x 1) (h : 0 ≤ x) :
    0 ≤ value (full * x) := by
  rw [Binary64.le_iff_value_le (by decide) hx.isFinite, Binary64.value_zero] at h
  exact (Binary64.rounds_mul hfull.isFinite hx.isFinite).value_nonneg (mul_nonneg hfull.nonneg h)

/-- A larger share of a number is not smaller. -/
lemma mul_le_mul (hfull : Within full full) (hx : Within x 1) (hy : Within y 1) (h : x ≤ y) :
    full * x ≤ full * y := by
  have hfinite := hfull.isFinite
  have hx' := (hfull.mul hx).isFinite
  have hy' := (hfull.mul hy).isFinite
  rw [Binary64.le_iff_value_le hx.isFinite hy.isFinite] at h
  rw [Binary64.le_iff_value_le hx' hy', (Binary64.rounds_mul hfinite hx.isFinite).value_eq hx',
    (Binary64.rounds_mul hfinite hy.isFinite).value_eq hy']
  exact Binary64.rounded_mono (mul_le_mul_of_nonneg_left h hfull.nonneg)

/-- The quotient of a number by one that it is within is within one. -/
lemma div (h : Within x full) (hfull : full.isFinite = true) (hzero : value full ≠ 0) :
    Within (x / full) 1 := by
  refine of_rounds (Binary64.rounds_div h.isFinite hfull hzero)
    (Binary64.rounds_value (by decide : (1 : Float).isFinite = true)) ?_ (by decide)
  rw [abs_div, abs_of_nonneg h.nonneg, value_one]
  exact div_le_one_of_le₀ h.abs_le h.nonneg

/-- Sums of numbers are within the sums of those that they are within. -/
lemma add (hx : Within x full) (hy : Within y full') (h : (full + full').isFinite = true) :
    Within (x + y) (full + full') := by
  obtain ⟨hfull, hfull'⟩ := Binary64.isFinite_of_add h
  refine of_rounds (Binary64.rounds_add hx.isFinite hy.isFinite)
    (Binary64.rounds_add hfull hfull') ?_ h
  exact (abs_add_le _ _).trans (add_le_add hx.abs_le hy.abs_le)

end Within

/-! ### Within one -/

lemma within_one_self : Within 1 1 := ⟨by decide, by decide +kernel⟩

/-- A zero is within every number that is not negative. -/
lemma within_of_zero {s : Float.Model.UnpackedFloat.Sign} (hx : x.toModel.unpack = .zero s)
    (h : 0 ≤ value full) : Within x full where
  isFinite := by
    change x.toModel.unpack.isFinite = true
    rw [hx]
    rfl
  abs_le := by rwa [Binary64.value_of_zero hx, abs_zero]

lemma within_zero (h : 0 ≤ value full) : Within 0 full := within_of_zero (s := .positive) rfl h

lemma within_of_between (hlow : -1 < x) (hhigh : x < 1) : Within x 1 := by
  have hfinite := Binary64.isFinite_of_lt_of_lt hlow hhigh
  have hminus : value (-1) = -value 1 := by decide +kernel
  have hlow' := (Binary64.lt_iff_value_lt (by decide) hfinite).mp hlow
  have hhigh' := (Binary64.lt_iff_value_lt hfinite (by decide)).mp hhigh
  exact ⟨hfinite, abs_le.mpr ⟨(hminus ▸ hlow').le, hhigh'.le⟩⟩

lemma between_of_within_one (h : Within x 1) (hx : 0 ≤ value x) : 0 ≤ x ∧ x ≤ 1 := by
  have hle : value x ≤ value 1 := (le_abs_self _).trans h.abs_le
  constructor
  · rwa [Binary64.le_iff_value_le (by decide) h.isFinite, Binary64.value_zero]
  · rwa [Binary64.le_iff_value_le h.isFinite (by decide)]

/-! ### Shares of positive numbers -/

lemma within_self_of_pos (hpos : 0 < full) (hfinite : full.isFinite = true) :
    Within full full := by
  rw [Binary64.lt_iff_value_lt (by decide) hfinite, Binary64.value_zero] at hpos
  exact ⟨hfinite, (abs_of_pos hpos).le⟩

/-- A larger share of a positive number is not smaller, be the number infinite. -/
lemma not_mul_lt_mul (hpos : 0 < full) (hx : Within x 1) (hy : Within y 1) (h : x ≤ y) :
    ¬ full * y < full * x := by
  rcases Binary64.isFinite_or_infinity_of_pos hpos with hfinite | hinfinite
  · have hfull := within_self_of_pos hpos hfinite
    have hle := hfull.mul_le_mul hx hy h
    rw [Binary64.le_iff_value_le (hfull.mul hx).isFinite (hfull.mul hy).isFinite] at hle
    rw [Binary64.lt_iff_value_lt (hfull.mul hy).isFinite (hfull.mul hx).isFinite]
    exact hle.not_gt
  · rw [Binary64.le_iff_value_le hx.isFinite hy.isFinite] at h
    exact Binary64.not_infinity_mul_lt hinfinite hx.isFinite hy.isFinite h

end Grading
