/-
Which spelled numbers are read as floating-point numbers.

* `keepDigits_of_lt`, `keepDigits_le`: digits are kept as long as they fit 64 bits, so that what is
  kept is never larger than what is written;
* `isSome_scaled?_of_neg`: no number is too large if the point is moved to the left;
* `isSome_scaled?_of_le`: and none up to a bound close to the greatest number, if it is moved to the
  right, although two numbers are rounded before they are multiplied.
-/
import Grading.Proofs.Float.Scientific
import Grading.Proofs.Decimal.Whole

namespace Grading

namespace Json

open Binary64 (value limit rounded roundedSize)
open Decimal (digitValue wordCount)

variable {s : Text} {m n k left : ℕ} {e : ℤ} {x : Float}

/-! ### Digits that are kept -/

/-- The number that digits stand for that follow others. -/
def valueFrom (n : ℕ) (s : Text) : ℕ := s.foldl (fun n c => 10 * n + digitValue c) n

lemma le_valueFrom (n : ℕ) (s : Text) : n * 10 ^ s.length ≤ valueFrom n s := by
  induction s generalizing n with
  | nil => simp [valueFrom]
  | cons c s ih =>
      have hrest : valueFrom n (c :: s) = valueFrom (10 * n + digitValue c) s := rfl
      rw [hrest, List.length_cons, pow_succ]
      calc n * (10 ^ s.length * 10) = 10 * n * 10 ^ s.length := by ring
        _ ≤ (10 * n + digitValue c) * 10 ^ s.length :=
          Nat.mul_le_mul_right _ (Nat.le_add_right _ _)
        _ ≤ _ := ih _

/-- All digits are kept of a number of 64 bits. -/
lemma keepDigits_of_lt (h : valueFrom n s < wordCount) : keepDigits n s = (valueFrom n s, 0) := by
  induction s generalizing n with
  | nil => rfl
  | cons c s ih =>
      have hrest : valueFrom n (c :: s) = valueFrom (10 * n + digitValue c) s := rfl
      have hnext : 10 * n + digitValue c < wordCount := by
        refine lt_of_le_of_lt ?_ (hrest ▸ h)
        exact le_trans (Nat.le_mul_of_pos_right _ (Nat.pow_pos (by decide))) (le_valueFrom _ s)
      rw [keepDigits, if_pos hnext, hrest]
      exact ih (hrest ▸ h)

/-- What is kept is never larger than what is written. -/
lemma keepDigits_le (hn : n < wordCount) (h : keepDigits n s = (m, left)) :
    m < wordCount ∧ left ≤ s.length ∧ m * 10 ^ left ≤ valueFrom n s := by
  induction s generalizing n with
  | nil =>
      obtain ⟨rfl, rfl⟩ := Prod.mk.inj h
      exact ⟨hn, le_rfl, by simp [valueFrom]⟩
  | cons c s ih =>
      rw [keepDigits] at h
      split at h
      case isTrue hnext =>
        obtain ⟨hm, hleft, hle⟩ := ih hnext h
        exact ⟨hm, hleft.trans (Nat.le_succ _), hle⟩
      case isFalse =>
        obtain ⟨rfl, rfl⟩ := Prod.mk.inj h
        exact ⟨hn, le_rfl, le_valueFrom n (c :: s)⟩

/-! ### Moving the point -/

/-- To the left: no number becomes too large. -/
lemma isSome_scaled?_of_neg (h : e < 0) (x : Float) : (scaled? x e).isSome = true := by
  induction x, e using scaled?.induct with
  | case1 x e hnear hup => omega
  | case2 x e hnear hup => omega
  | case3 x e hnear hdown => rw [scaled?, dif_pos hnear, if_neg hdown, Option.isSome_some]
  | case4 x e hfar hzero => rw [scaled?, dif_neg hfar, if_pos hzero, Option.isSome_some]
  | case5 x e hfar hzero hup => omega
  | case6 x e hfar hzero hdown ih =>
      rw [scaled?, dif_neg hfar, if_neg hzero, dif_neg hdown]
      refine ih ?_
      simp only [greatestPower] at hfar ⊢
      omega

/-! ### The greatest numbers -/

/-- The greatest size that surely is read: it is seven quarters of a unit below the greatest
number. -/
def greatestSize : ℕ := (2 ^ 54 - 7) * 2 ^ 970

/-- It in units of the greatest number. -/
lemma greatestSize_eq : (greatestSize : ℚ) = (2 ^ 53 - 7 / 2) * 2 ^ (971 : ℤ) := by
  have hunit : (2 : ℚ) ^ (971 : ℤ) = 2 * 2 ^ 970 := by
    rw [← zpow_natCast, ← zpow_one_add₀ (by norm_num)]
    rfl
  rw [greatestSize, hunit, Nat.cast_mul, Nat.cast_pow, Nat.cast_ofNat]
  generalize (2 : ℚ) ^ 970 = unit
  norm_num
  ring

/-- A part in `2 ^ 53`, by which rounding may enlarge a number. -/
def part : ℚ := 2 ^ (-53 : ℤ)

lemma part_pos : 0 < part := Binary64.two_zpow_pos _

/-- What rounding adds to such a size does not make it too large, even if it is done twice before
the result is rounded. -/
lemma roundedSize_lt_limit {q : ℚ} (hq : 0 ≤ q) (h : q ≤ greatestSize * (1 + part) ^ 2) :
    roundedSize q < limit := by
  have hdigits : Binary64.Digits (2 ^ 53 - 1) 971 := ⟨by decide, by decide, Or.inl (by decide)⟩
  have hle : q ≤ ((2 ^ 53 - 1 : ℕ) : ℚ) * 2 ^ (971 : ℤ) := by
    refine h.trans ?_
    rw [greatestSize_eq, mul_right_comm]
    refine mul_le_mul_of_nonneg_right ?_ (Binary64.two_zpow_pos _).le
    norm_num [part]
  calc roundedSize q ≤ roundedSize (((2 ^ 53 - 1 : ℕ) : ℚ) * 2 ^ (971 : ℤ)) :=
        Binary64.roundedSize_mono hq hle
    _ = ((2 ^ 53 - 1 : ℕ) : ℚ) * 2 ^ (971 : ℤ) := hdigits.roundedSize_eq
    _ < limit := hdigits.lt_limit_iff.mpr (by decide)

lemma abs_rounded_lt_limit (h : m ≤ greatestSize) : |rounded (m : ℚ)| < limit := by
  have hm : (0 : ℚ) ≤ m := Nat.cast_nonneg m
  have hm' : (m : ℚ) ≤ greatestSize := by exact_mod_cast h
  rw [Binary64.abs_rounded, abs_of_nonneg hm]
  have hpart := part_pos
  exact roundedSize_lt_limit hm
    (hm'.trans (le_mul_of_one_le_right (Nat.cast_nonneg _) (one_le_pow₀ (by linarith))))

/-- Rounding enlarges a whole number by a small part at most. -/
lemma rounded_natCast_le (m : ℕ) : 0 ≤ rounded (m : ℚ) ∧ rounded (m : ℚ) ≤ m * (1 + part) := by
  have hm : (0 : ℚ) ≤ m := Nat.cast_nonneg m
  rw [Binary64.rounded_of_nonneg hm]
  refine ⟨Binary64.roundedSize_nonneg hm, ?_⟩
  rcases Nat.eq_zero_or_pos m with hzero | hpos
  · rw [hzero, Nat.cast_zero, zero_mul, Binary64.roundedSize_zero]
  · refine Binary64.roundedSize_le_of_normal ?_
    calc (2 : ℚ) ^ (-1022 : ℤ) ≤ 2 ^ (0 : ℤ) := Binary64.two_zpow_le (by decide)
      _ ≤ m := by
        rw [zpow_zero]
        exact_mod_cast hpos

lemma wordCount_le_greatestSize : wordCount ≤ greatestSize := by decide +kernel

lemma isFinite_ofNat (h : m < wordCount) : (Float.ofNat m).isFinite = true :=
  (Binary64.rounds_ofNat m).isFinite_iff.mpr
    (abs_rounded_lt_limit (h.le.trans wordCount_le_greatestSize))

lemma rounds_power (h : k ≤ greatestPower) : Binary64.Rounds (power k) (10 ^ k : ℕ) := by
  have hrounds := Binary64.rounds_power (h.trans (by decide))
  push_cast
  exact hrounds

lemma isFinite_power (h : k ≤ greatestPower) : (power k).isFinite = true := by
  have hpower : 10 ^ greatestPower ≤ greatestSize := by decide +kernel
  refine (rounds_power h).isFinite_iff.mpr (abs_rounded_lt_limit (le_trans ?_ hpower))
  exact Nat.pow_le_pow_right (by decide) h

/-- A product of two numbers that are rounded. -/
lemma isFinite_mul_power (hm : m < wordCount) (hk : k ≤ greatestPower)
    (h : (m : ℚ) * 10 ^ k ≤ greatestSize) : (Float.ofNat m * power k).isFinite = true := by
  have hleft := isFinite_ofNat hm
  have hright := isFinite_power hk
  obtain ⟨hm₀, hm₁⟩ := rounded_natCast_le m
  obtain ⟨hk₀, hk₁⟩ := rounded_natCast_le (10 ^ k)
  have hpart := part_pos
  have hproduct : 0 ≤ rounded (m : ℚ) * rounded ((10 ^ k : ℕ) : ℚ) := mul_nonneg hm₀ hk₀
  rw [(Binary64.rounds_mul hleft hright).isFinite_iff, (Binary64.rounds_ofNat m).value_eq hleft,
    (rounds_power hk).value_eq hright, Binary64.abs_rounded, abs_of_nonneg hproduct]
  refine roundedSize_lt_limit hproduct ?_
  calc rounded (m : ℚ) * rounded ((10 ^ k : ℕ) : ℚ)
      ≤ m * (1 + part) * ((10 ^ k : ℕ) * (1 + part)) :=
        mul_le_mul hm₁ hk₁ hk₀ (mul_nonneg (Nat.cast_nonneg m) (by linarith))
    _ = m * 10 ^ k * (1 + part) ^ 2 := by
        push_cast
        ring
    _ ≤ greatestSize * (1 + part) ^ 2 := mul_le_mul_of_nonneg_right h (by positivity)

/-- To the right: the result is not too large if the exact number is not. -/
lemma isSome_scaled?_of_le (hm : m < wordCount) (h : (m : ℚ) * 10 ^ e ≤ greatestSize) :
    (scaled? (Float.ofNat m) e).isSome = true := by
  rcases lt_or_ge e 0 with hneg | hnonneg
  · exact isSome_scaled?_of_neg hneg _
  · obtain ⟨k, rfl⟩ := Int.eq_ofNat_of_zero_le hnonneg
    rw [zpow_natCast] at h
    rw [scaled?, Int.natAbs_natCast, if_pos hnonneg]
    split
    case isTrue hnear =>
      rw [if_pos (isFinite_mul_power hm hnear h)]
      rfl
    case isFalse hfar =>
      rcases Nat.eq_zero_or_pos m with rfl | hpos
      · rfl
      · -- even a single unit would be too large
        have hle : 10 ^ k ≤ greatestSize := by
          refine le_trans (Nat.le_mul_of_pos_left _ hpos) ?_
          exact_mod_cast h
        have hlt : 10 ^ (greatestPower + 1) ≤ 10 ^ k :=
          Nat.pow_le_pow_right (by decide) (Nat.lt_of_not_le hfar)
        exact absurd (hlt.trans hle) (by decide +kernel)

end Json

end Grading
