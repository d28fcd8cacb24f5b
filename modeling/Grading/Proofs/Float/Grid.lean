/-
Which numbers are floating-point numbers.

* `exists_value_eq`: the multiples of the unit of a number are, up to that number;
* `exists_multiple_between`: where distances spread over a unit, some multiple of it is at one of
  them;
* `greatest`, `abs_value_le_greatest`: no finite number is larger than the greatest.
-/
import Grading.Proofs.Float.Order

namespace Grading

namespace Binary64

open Float.Model (Format UnpackedFloat)

variable {q v low high unit : ℚ} {n : ℤ} {x : Float}

/-! ### Multiples of a unit -/

/-- A whole multiple of a number's unit is kept up to the number. -/
lemma rounded_multiple (hn : |(n : ℚ)| * 2 ^ gridExponent q ≤ q) :
    rounded (n * 2 ^ gridExponent q) = n * 2 ^ gridExponent q := by
  have habs : |(n : ℚ)| = n.natAbs := by rw [Nat.cast_natAbs, Int.cast_abs]
  have hlt : n.natAbs < 2 ^ 53 := by
    have hdiv : |(n : ℚ)| < 2 ^ 53 :=
      ((le_div_iff₀ (two_zpow_pos _)).mpr hn).trans_lt (div_gridExponent_lt q)
    rw [habs] at hdiv
    exact_mod_cast hdiv
  have hkept := roundedSize_of_lt hlt (show -1074 ≤ gridExponent q from le_max_right _ _)
  rw [← habs] at hkept
  rcases le_or_gt 0 (n : ℚ) with hn | hn
  · rw [abs_of_nonneg hn] at hkept
    rw [rounded_of_nonneg (mul_nonneg hn (two_zpow_pos _).le), hkept]
  · rw [abs_of_neg hn] at hkept
    have hsize := mul_nonneg (neg_pos.mpr hn).le (two_zpow_pos (gridExponent q)).le
    rw [← neg_neg (n : ℚ), neg_mul, rounded_neg, rounded_of_nonneg hsize, hkept]

/-- It is a floating-point number, if the number is not too large. -/
lemma exists_value_eq (hlimit : q < limit) (hn : |(n : ℚ)| * 2 ^ gridExponent q ≤ q) :
    ∃ x : Float, x.isFinite = true ∧ value x = n * 2 ^ gridExponent q := by
  have hkept := rounded_multiple hn
  have hrounds := rounds_pack_normalize n (gridExponent q) .positive
  have hfinite := hrounds.isFinite_iff.mpr (by
    rw [hkept, abs_mul, abs_of_pos (two_zpow_pos _)]
    exact hn.trans_lt hlimit)
  exact ⟨_, hfinite, (hrounds.value_eq hfinite).trans hkept⟩

/-- Where the distances from a number spread over a unit, some multiple of the unit is at one of
them, below a number that is not negative. -/
lemma exists_multiple_below (hv : 0 ≤ v) (hunit : 0 < unit) (hlow : 0 < low)
    (h : unit ≤ high - low) :
    ∃ n : ℤ, |(n : ℚ)| * unit ≤ max v high ∧ low ≤ |n * unit - v| ∧ |n * unit - v| ≤ high := by
  have hle : (⌊(v - low) / unit⌋ : ℚ) * unit ≤ v - low :=
    (le_div_iff₀ hunit).mp (Int.floor_le _)
  have hlt : v - low < (⌊(v - low) / unit⌋ + 1 : ℚ) * unit :=
    (div_lt_iff₀ hunit).mp (Int.lt_floor_add_one _)
  have hdistance : |(⌊(v - low) / unit⌋ : ℚ) * unit - v| = v - ⌊(v - low) / unit⌋ * unit := by
    rw [abs_of_nonpos (by linarith), neg_sub]
  refine ⟨⌊(v - low) / unit⌋, ?_, by linarith, by linarith⟩
  rw [← abs_of_pos hunit, ← abs_mul, abs_of_pos hunit, abs_le]
  exact ⟨by linarith [le_max_right v high], by linarith [le_max_left v high]⟩

/-- In general, on the side of zero. -/
lemma exists_multiple_between (hunit : 0 < unit) (hlow : 0 < low) (h : unit ≤ high - low) (v : ℚ) :
    ∃ n : ℤ, |(n : ℚ)| * unit ≤ max |v| high ∧ low ≤ |n * unit - v| ∧ |n * unit - v| ≤ high := by
  rcases le_or_gt 0 v with hv | hv
  · rw [abs_of_nonneg hv]
    exact exists_multiple_below hv hunit hlow h
  · obtain ⟨n, hn, hfar, hnear⟩ := exists_multiple_below (neg_pos.mpr hv).le hunit hlow h
    have hdistance : |((-n : ℤ) : ℚ) * unit - v| = |n * unit - -v| := by
      rw [← abs_neg, Int.cast_neg]
      congr 1
      ring
    refine ⟨-n, ?_, hdistance ▸ hfar, hdistance ▸ hnear⟩
    rwa [Int.cast_neg, abs_neg, abs_of_neg hv]

/-! ### The greatest number -/

/-- The greatest finite number. -/
def greatest : Float := .ofModel (Float.Model.pack (.finite .positive (2 ^ 53 - 1) 971 (by decide)))

lemma value_greatest : value greatest = (2 ^ 53 - 1 : ℕ) * 2 ^ (971 : ℤ) := by
  have hdigits : Digits (2 ^ 53 - 1) 971 := ⟨by decide, by decide, Or.inl (by decide)⟩
  exact value_of_finite ((unpack_pack_finite hdigits (by decide)).trans (if_pos (by decide)))

/-- No finite number is larger. -/
lemma abs_value_le_greatest (hx : x.isFinite = true) : |value x| ≤ value greatest := by
  rw [value_greatest]
  rcases zero_or_digits hx with ⟨s, hu⟩ | ⟨s, m, e, hm, hu, hdigits, he⟩
  · rw [value_of_zero hu, abs_zero]
    exact size_nonneg _ _
  · have hm' : (m : ℚ) ≤ (2 ^ 53 - 1 : ℕ) := by exact_mod_cast Nat.le_sub_one_of_lt hdigits.lt
    rw [value_of_finite hu, abs_signed, abs_of_nonneg (size_nonneg m e)]
    exact mul_le_mul hm' (two_zpow_le (by omega)) (two_zpow_pos e).le (Nat.cast_nonneg _)

end Binary64

end Grading
