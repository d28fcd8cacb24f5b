/-
Quotients of floating-point numbers are the exact quotients, rounded.

* `describes_accuracyOfFraction`, `div_eq_shiftLeft_div`: a whole quotient and its remainder tell
  where the quotient lies;
* `isRounded_divCore`: the quotient of two sizes is taken with enough digits to be rounded;
* `rounds_pack_div`, `rounds_div`: so quotients are rounded.
-/
import Grading.Proofs.Float.Operations

namespace Grading

namespace Binary64

open Float.Model (Format UnpackedFloat totalExponent)
open Float.Model.UnpackedFloat (Sign accuracyOfFraction divCore roundWithAccuracy)

variable {s t : Sign} {m n r : ℕ} {e k : ℤ} {x y : Float}

/-! ### Whole quotients -/

/-- A remainder tells in which part of a unit above the whole quotient the quotient lies. -/
lemma describes_accuracyOfFraction (m : ℕ) (h : r < n) :
    Describes m (accuracyOfFraction r n) (m + r / n) := by
  have hn : (0 : ℚ) < n := by exact_mod_cast (Nat.zero_le r).trans_lt h
  have hone : (r : ℚ) / n < 1 := by
    rw [div_lt_one hn]
    exact_mod_cast h
  rw [accuracyOfFraction]
  split_ifs with hr
  · rw [hr, Nat.cast_zero, zero_div, add_zero]
    rfl
  · have hpos : (0 : ℚ) < r / n := div_pos (by exact_mod_cast Nat.pos_of_ne_zero hr) hn
    rcases lt_trichotomy (2 * r) n with hlt | heq | hgt
    · have hhalf : (r : ℚ) / n < 1 / 2 := by
        rw [div_lt_div_iff₀ hn (by norm_num)]
        exact_mod_cast (by omega : r * 2 < 1 * n)
      rw [compare_lt_iff_lt.mpr hlt]
      constructor <;> linarith
    · have hhalf : (r : ℚ) / n = 1 / 2 := by
        rw [div_eq_div_iff hn.ne' (by norm_num)]
        exact_mod_cast (by omega : r * 2 = 1 * n)
      rw [compare_eq_iff_eq.mpr heq, hhalf]
      rfl
    · have hhalf : 1 / 2 < (r : ℚ) / n := by
        rw [div_lt_div_iff₀ (by norm_num) hn]
        exact_mod_cast (by omega : 1 * n < r * 2)
      rw [compare_gt_iff_gt.mpr hgt]
      constructor <;> linarith

/-- A mantissa that is shifted far enough has a whole quotient of 53 digits. -/
lemma two_pow_le_shiftLeft_div (hm : 0 < m) (hn : 0 < n) {shift : ℕ}
    (h : Nat.log2 n + 53 ≤ Nat.log2 m + shift) : 2 ^ 52 ≤ (m <<< shift) / n := by
  rw [Nat.le_div_iff_mul_le hn, Nat.shiftLeft_eq]
  calc 2 ^ 52 * n ≤ 2 ^ 52 * 2 ^ (Nat.log2 n + 1) := Nat.mul_le_mul_left _ Nat.lt_log2_self.le
    _ = 2 ^ (Nat.log2 n + 53) := by
        rw [← pow_add]
        congr 1
        omega
    _ ≤ 2 ^ (Nat.log2 m + shift) := Nat.pow_le_pow_right (by decide) h
    _ = 2 ^ Nat.log2 m * 2 ^ shift := pow_add 2 _ _
    _ ≤ m * 2 ^ shift := Nat.mul_le_mul_right _ (Nat.log2_self_le hm.ne')

/-- A quotient in units, as a whole quotient and a remainder. -/
lemma div_eq_shiftLeft_div (hn : 0 < n) {shift : ℕ} {unit : ℤ} (h : (shift : ℤ) + unit + k = e) :
    (m : ℚ) * 2 ^ e / (n * 2 ^ k)
      = ((m <<< shift / n : ℕ) + (m <<< shift % n : ℕ) / (n : ℚ)) * 2 ^ unit := by
  have hn' : (n : ℚ) ≠ 0 := by exact_mod_cast hn.ne'
  have hdiv : (n : ℚ) * (m <<< shift / n : ℕ) + (m <<< shift % n : ℕ) = m * 2 ^ shift := by
    rw [← Nat.cast_mul, ← Nat.cast_add, Nat.div_add_mod, Nat.shiftLeft_eq]
    push_cast
    rfl
  have hwhole : ((m <<< shift / n : ℕ) + (m <<< shift % n : ℕ) / (n : ℚ)) = m * 2 ^ shift / n := by
    rw [← hdiv, add_div, mul_div_cancel_left₀ _ hn']
  rw [hwhole, div_mul_eq_mul_div, div_eq_div_iff (mul_ne_zero hn' (two_zpow_pos k).ne') hn', ← h,
    ← two_zpow_mul, ← two_zpow_mul, zpow_natCast]
  ring

/-- The quotient of two sizes is taken with enough digits to be rounded. -/
lemma isRounded_divCore (hm : 0 < m) (hn : 0 < n) (e k : ℤ) :
    IsRounded s (m * 2 ^ e / (n * 2 ^ k))
      (roundWithAccuracy Format.binary64 s (divCore Format.binary64 m e n k).1
        (divCore Format.binary64 m e n k).2.1 (divCore Format.binary64 m e n k).2.2) := by
  rw [divCore]
  dsimp only
  have htarget : Format.binary64.targetExponent (totalExponent m e - totalExponent n k)
      = max (Nat.log2 m + e - (Nat.log2 n + k) - 53) (-1074) := by
    simp only [Format.targetExponent, totalExponent, Format.mantissaBits, Format.minExponent]
    push_cast
    omega
  rw [htarget]
  -- the unit of the quotient, and the shift that makes it whole
  obtain ⟨unit, hunit⟩ : ∃ unit, unit
      = min (e - k) (max (Nat.log2 m + e - (Nat.log2 n + k) - 53) (-1074)) := ⟨_, rfl⟩
  obtain ⟨shift, hshift⟩ : ∃ shift, shift = (e - k - unit).toNat := ⟨_, rfl⟩
  rw [← hunit, ← hshift]
  have hsum : (shift : ℤ) + unit + k = e := by omega
  rw [div_eq_shiftLeft_div hn hsum]
  refine isRounded_roundWithAccuracy (describes_accuracyOfFraction _ (Nat.mod_lt _ hn)) ?_
  rw [targetExponent_eq]
  -- either the unit is the least there is, or the quotient has all digits
  rcases le_or_gt (Nat.log2 m + e - (Nat.log2 n + k) - 53 : ℤ) (-1074) with hleast | hnormal
  · omega
  · have hdigits : 2 ^ 52 ≤ m <<< shift / n := two_pow_le_shiftLeft_div hm hn (by omega)
    have hlog : 52 ≤ Nat.log2 (m <<< shift / n) :=
      (Nat.le_log2 ((Nat.two_pow_pos 52).trans_le hdigits).ne').mpr hdigits
    omega

/-! ### Quotients -/

lemma signed_div_signed (s t : Sign) (p q : ℚ) :
    signed s p / signed t q = signed (s / t) (p / q) := by
  cases s <;> cases t <;>
    first | exact neg_div_neg_eq p q | exact neg_div q p | exact div_neg p | rfl

/-- The quotient of two sizes is rounded. -/
lemma rounds_pack_div (hm : 0 < m) (hn : 0 < n) :
    Rounds (.ofModel (Float.Model.pack
      (UnpackedFloat.div Format.binary64 (.finite s m e hm) (.finite t n k hn))))
      (signed s (m * 2 ^ e) / signed t (n * 2 ^ k)) := by
  rw [signed_div_signed]
  exact rounds_pack (div_nonneg (size_nonneg m e) (size_nonneg n k)) (isRounded_divCore hm hn e k)

/-- The quotient of finite numbers is the exact quotient, rounded. -/
lemma rounds_div (hx : x.isFinite = true) (hy : y.isFinite = true) (hzero : value y ≠ 0) :
    Rounds (x / y) (value x / value y) := by
  change Rounds (.ofModel (Float.Model.pack
    (x.toModel.unpack.div Format.binary64 y.toModel.unpack))) _
  rcases zero_or_digits hy with ⟨t, hv⟩ | ⟨t, n, k, hn, hv, -, -⟩
  · exact absurd (value_of_zero hv) hzero
  · rcases zero_or_digits hx with ⟨s, hu⟩ | ⟨s, m, e, hm, hu, -, -⟩
    · rw [value_of_zero hu, zero_div, hu, hv]
      exact rounds_pack_zero _
    · rw [value_of_finite hu, value_of_finite hv, hu, hv]
      exact rounds_pack_div hm hn

end Binary64

end Grading
