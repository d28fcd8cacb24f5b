/-
How large the decimals are that floating-point numbers are written as.

* `toRat`, `toRat_dropZeros`: the number that a decimal stands for, with or without zeros at its
  end;
* `compareScaled_eq`: the comparison of decimal and binary numbers is exact;
* `bounds_of_shortest`: the shortest decimal of a number is positive, and at most half a unit of the
  last digit above it.
-/
import Grading.Decimal.Shortest
import Grading.Proofs.Float.Rounding

namespace Grading

namespace Decimal

open Binary64 (two_zpow_pos)

variable {d : Decimal} {x : Binary} {tie : Tie} {k : ℤ}

/-! ### Decimals as numbers -/

/-- The number that a decimal stands for. -/
def toRat (d : Decimal) : ℚ := d.coefficient * 10 ^ d.exponent

lemma ten_zpow_pos (k : ℤ) : (0 : ℚ) < 10 ^ k := zpow_pos (by norm_num) k

lemma toRat_pos_iff : 0 < d.toRat ↔ 0 < d.coefficient := by
  rw [toRat, mul_pos_iff_of_pos_right (ten_zpow_pos _), Nat.cast_pos]

/-- Zeros at the end of the digits do not change the number. -/
lemma toRat_dropZeros (d : Decimal) : d.dropZeros.toRat = d.toRat := by
  induction d using dropZeros.induct with
  | case1 d h ih =>
      have htenth : d.coefficient = 10 * (d.coefficient / 10) := by omega
      rw [dropZeros, dif_pos h, ih, toRat, toRat, zpow_add₀ (by norm_num : (10 : ℚ) ≠ 0), zpow_one]
      conv_rhs => rw [htenth]
      push_cast
      ring
  | case2 d h => rw [dropZeros, dif_neg h]

/-! ### Comparing with binary numbers -/

namespace Binary

lemma zpow_eq_div {a : ℚ} (ha : a ≠ 0) (k : ℤ) : a ^ k = a ^ k.toNat / a ^ (-k).toNat := by
  rw [eq_div_iff (pow_ne_zero _ ha), ← zpow_natCast, ← zpow_natCast, ← zpow_add₀ ha]
  congr 1
  omega

/-- Decimal and binary numbers are compared exactly. -/
lemma compareScaled_eq (a : ℕ) (i : ℤ) (m : ℕ) (j : ℤ) :
    compareScaled a i m j = compare ((a : ℚ) * 10 ^ i) (m * 2 ^ j) := by
  have hten : (0 : ℚ) < 10 ^ (-i).toNat := by positivity
  have htwo : (0 : ℚ) < 2 ^ (-j).toNat := by positivity
  -- both sides in whole numbers of one unit
  have hleft : ((a * Nat.pow 10 i.toNat * Nat.pow 2 (-j).toNat : ℕ) : ℚ)
      = a * 10 ^ i * (10 ^ (-i).toNat * 2 ^ (-j).toNat) := by
    simp only [Nat.pow_eq]
    push_cast
    rw [zpow_eq_div (by norm_num : (10 : ℚ) ≠ 0) i]
    field_simp
  have hright : ((m * Nat.pow 2 j.toNat * Nat.pow 10 (-i).toNat : ℕ) : ℚ)
      = m * 2 ^ j * (10 ^ (-i).toNat * 2 ^ (-j).toNat) := by
    simp only [Nat.pow_eq]
    push_cast
    rw [zpow_eq_div (by norm_num : (2 : ℚ) ≠ 0) j]
    field_simp
  have hpos : (0 : ℚ) < 10 ^ (-i).toNat * 2 ^ (-j).toNat := mul_pos hten htwo
  rw [compareScaled]
  generalize a * Nat.pow 10 i.toNat * Nat.pow 2 (-j).toNat = left at *
  generalize m * Nat.pow 2 j.toNat * Nat.pow 10 (-i).toNat = right at *
  -- the unit is positive, and keeps the order
  rcases lt_trichotomy ((a : ℚ) * 10 ^ i) (m * 2 ^ j) with hlt | heq | hgt
  · have hscaled : (left : ℚ) < right := by
      rw [hleft, hright]
      exact mul_lt_mul_of_pos_right hlt hpos
    rw [compare_lt_iff_lt.mpr hlt, compare_lt_iff_lt.mpr (by exact_mod_cast hscaled)]
  · have hscaled : (left : ℚ) = right := by rw [hleft, hright, heq]
    rw [compare_eq_iff_eq.mpr heq, compare_eq_iff_eq.mpr (by exact_mod_cast hscaled)]
  · have hscaled : (right : ℚ) < left := by
      rw [hleft, hright]
      exact mul_lt_mul_of_pos_right hgt hpos
    rw [compare_gt_iff_gt.mpr hgt, compare_gt_iff_gt.mpr (by exact_mod_cast hscaled)]

/-- A decimal that identifies a number is positive, and at most half a unit above it. -/
lemma bounds_of_identifies (hx : 0 < x.mantissa) (h : x.identifies d = true) :
    0 < d.toRat ∧ d.toRat ≤ (x.mantissa + 1 / 2) * 2 ^ x.exponent := by
  simp only [identifies, compareScaled_eq, Bool.and_eq_true, Bool.or_eq_true, beq_iff_eq,
    compare_gt_iff_gt, compare_lt_iff_lt, compare_eq_iff_eq] at h
  obtain ⟨hlow, hhigh⟩ := h
  constructor
  · have hbelow : 0 < if x.narrowBelow = true then 4 * x.mantissa - 1 else 4 * x.mantissa - 2 := by
      split <;> omega
    generalize (if x.narrowBelow = true then 4 * x.mantissa - 1 else 4 * x.mantissa - 2) = below
      at hlow hbelow
    have hpos : (0 : ℚ) < below * 2 ^ (x.exponent - 2) :=
      mul_pos (by exact_mod_cast hbelow) (two_zpow_pos _)
    rcases hlow with hlow | ⟨-, hlow⟩
    · exact hpos.trans hlow
    · exact hpos.trans_eq hlow.symm
  · have hle : d.toRat ≤ (4 * x.mantissa + 2 : ℕ) * 2 ^ (x.exponent - 2) := by
      rcases hhigh with hhigh | ⟨-, hhigh⟩
      · exact hhigh.le
      · exact hhigh.le
    refine hle.trans_eq ?_
    rw [zpow_sub₀ (by norm_num : (2 : ℚ) ≠ 0)]
    push_cast
    ring

/-- The exact value of a number is that number. -/
lemma toRat_exact (x : Binary) : x.exact.toRat = x.mantissa * 2 ^ x.exponent := by
  rw [exact, toRat]
  simp only [Nat.pow_eq]
  push_cast
  rcases le_or_gt 0 x.exponent with hnonneg | hneg
  · have hnat : (-x.exponent).toNat = 0 := by omega
    rw [min_eq_right hnonneg, hnat, pow_zero, mul_one, zpow_zero, mul_one, ← zpow_natCast,
      Int.toNat_of_nonneg hnonneg]
  · obtain ⟨n, hn⟩ : ∃ n : ℕ, x.exponent = -(n : ℤ) := ⟨(-x.exponent).toNat, by omega⟩
    have hnat : x.exponent.toNat = 0 := by omega
    rw [min_eq_left hneg.le, hnat, hn, neg_neg, Int.toNat_natCast, zpow_neg, zpow_neg,
      zpow_natCast, zpow_natCast, show (10 : ℚ) = 2 * 5 by norm_num, mul_pow]
    field_simp

lemma identifies_of_onGrid? (h : x.onGrid? tie k = some d) : x.identifies d = true := by
  simp only [onGrid?] at h
  split_ifs at h with hnear hup hdown hdown <;> obtain rfl := Option.some.inj h <;> assumption

/-- The shortest decimal is positive, and at most half a unit above the number. -/
lemma bounds_of_shortest (tie : Tie) (hx : 0 < x.mantissa) :
    0 < (shortest tie x).toRat
      ∧ (shortest tie x).toRat ≤ (x.mantissa + 1 / 2) * 2 ^ x.exponent := by
  simp only [shortest]
  cases hfind : (List.range 17).findSome? fun n : ℕ => x.onGrid? tie (x.scale - 1 - n) with
  | none =>
      have hm : (0 : ℚ) < x.mantissa := by exact_mod_cast hx
      rw [Option.getD_none, toRat_exact]
      refine ⟨mul_pos hm (two_zpow_pos _), mul_le_mul_of_nonneg_right ?_ (two_zpow_pos _).le⟩
      linarith
  | some d =>
      obtain ⟨n, -, hd⟩ := List.exists_of_findSome?_eq_some hfind
      exact bounds_of_identifies hx (identifies_of_onGrid? hd)

end Binary

end Decimal

end Grading
