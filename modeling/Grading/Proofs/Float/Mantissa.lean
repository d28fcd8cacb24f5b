/-
How the results of floating-point operations are rounded: the mantissa is shifted to the unit of
the last digit, and the digits that are shifted out tell which way to round.

* `Describes`: what a mantissa with its accuracy says about a number, `describes_shiftRight`: and
  still says when it is shifted;
* `IsRounded`: an unpacked number is a given one, rounded;
* `isRounded_roundWithAccuracy`, `isRounded_round`: the results of the two ways to round are.
-/
import Grading.Proofs.Float.Rounding
import Mathlib

namespace Grading

namespace Binary64

open Float.Model (Format UnpackedFloat totalExponent)
open Float.Model.UnpackedFloat (Accuracy ExtendedMantissa Sign round roundWithAccuracy
  shiftToExponent shiftToTargetExponent decreaseExponent)

variable {a : Accuracy} {em : ExtendedMantissa} {s : Sign} {m : ℕ} {e t : ℤ} {x q : ℚ}

/-! ### Mantissas -/

/-- What a mantissa says about a number, together with its accuracy: in which part of the unit
above the mantissa the number lies. -/
def Describes (m : ℕ) : Accuracy → ℚ → Prop
  | .exact, x => x = m
  | .inexact .lt, x => m < x ∧ x < m + 1 / 2
  | .inexact .eq, x => x = m + 1 / 2
  | .inexact .gt, x => m + 1 / 2 < x ∧ x < m + 1

lemma Describes.le (h : Describes m a x) : (m : ℚ) ≤ x := by
  rcases a with _ | ⟨_ | _ | _⟩ <;> simp only [Describes] at h <;> linarith

lemma Describes.lt (h : Describes m a x) : x < m + 1 := by
  rcases a with _ | ⟨_ | _ | _⟩ <;> simp only [Describes] at h <;> linarith

/-- The rounded mantissa is the whole number nearest to what is described. -/
lemma Describes.roundToNearestEven (h : Describes m a x) :
    (a.roundToNearestEven m : ℤ) = nearestEven x := by
  have hfloor : ⌊x⌋ = (m : ℤ) := Int.floor_eq_iff.mpr ⟨by exact_mod_cast h.le, by
    exact_mod_cast h.lt⟩
  have hfract : Int.fract x = x - m := by rw [Int.fract, hfloor, Int.cast_natCast]
  rw [nearestEven, hfract, hfloor]
  rcases a with _ | ⟨_ | _ | _⟩ <;> simp only [Describes] at h <;>
    simp only [Accuracy.roundToNearestEven] <;>
    split_ifs <;> first | linarith | (push_cast; omega)

/-- A shift by one digit halves what is described: the last digit becomes the first of those that
are shifted out. -/
lemma describes_shiftRightOne (h : Describes em.mantissa em.accuracy x) :
    Describes em.shiftRightOne.mantissa em.shiftRightOne.accuracy (x / 2) := by
  obtain ⟨m, roundBit, stickyBit⟩ := em
  have hm : (m : ℚ) = 2 * (m / 2 : ℕ) + (m % 2 : ℕ) := by exact_mod_cast (Nat.div_add_mod m 2).symm
  have hset : ((1 : ℕ) != 0) = true := rfl
  rcases Nat.mod_two_eq_zero_or_one m with hbit | hbit <;> rw [hbit] at hm <;> push_cast at hm <;>
    cases roundBit <;> cases stickyBit <;>
    simp only [ExtendedMantissa.accuracy, ExtendedMantissa.shiftRightOne, hbit, hset, Describes,
      bne_self_eq_false, Bool.or_false, Bool.or_true, Bool.or_self] at h ⊢ <;>
    first | (constructor <;> linarith) | linarith

lemma describes_shiftRight (h : Describes em.mantissa em.accuracy x) (n : ℕ) :
    Describes (em >>> n).mantissa (em >>> n).accuracy (x / 2 ^ n) := by
  induction n with
  | zero =>
      rw [pow_zero, div_one]
      exact h
  | succ n ih =>
      rw [pow_succ, ← div_div]
      exact describes_shiftRightOne ih

lemma accuracy_ofMantissaAndAccuracy (m : ℕ) (a : Accuracy) :
    (ExtendedMantissa.ofMantissaAndAccuracy m a).accuracy = a := by
  rcases a with _ | ⟨_ | _ | _⟩ <;> rfl

lemma mantissa_ofMantissaAndAccuracy (m : ℕ) (a : Accuracy) :
    (ExtendedMantissa.ofMantissaAndAccuracy m a).mantissa = m := by
  rcases a with _ | ⟨_ | _ | _⟩ <;> rfl

/-- Shifted to a unit and rounded, the mantissa is the nearest multiple of that unit. -/
lemma roundedMantissa_shiftToExponent (h : Describes m a x) (he : e ≤ t) :
    ((shiftToExponent m e a t).1.roundedMantissa : ℤ) = nearestEven (x * 2 ^ e / 2 ^ t) := by
  have hstart : Describes (ExtendedMantissa.ofMantissaAndAccuracy m a).mantissa
      (ExtendedMantissa.ofMantissaAndAccuracy m a).accuracy x := by
    rwa [accuracy_ofMantissaAndAccuracy, mantissa_ofMantissaAndAccuracy]
  have hshift : x * 2 ^ e / 2 ^ t = x / 2 ^ (t - e).toNat := by
    have hsum : t = (t - e).toNat + e := by omega
    rw [← zpow_natCast, eq_div_iff (two_zpow_pos _).ne', div_mul_eq_mul_div, mul_assoc,
      two_zpow_mul, Int.add_comm e, ← hsum, mul_div_cancel_right₀ _ (two_zpow_pos t).ne']
  rw [hshift]
  exact (describes_shiftRight hstart _).roundToNearestEven

lemma snd_shiftToExponent (he : e ≤ t) : (shiftToExponent m e a t).2 = t := by
  simp only [shiftToExponent]
  omega

/-! ### The unit of the last digit -/

lemma targetExponent_eq (m : ℕ) (e : ℤ) :
    Format.binary64.targetExponent (totalExponent m e) = max (Nat.log2 m + e - 52) (-1074) := by
  simp only [Format.targetExponent, totalExponent, Format.mantissaBits, Format.minExponent]
  push_cast
  omega

/-- The unit is that of the number, unless the number is zero. -/
lemma targetExponent_eq_gridExponent (h : Describes m a x) (hx : 0 < x)
    (he : e ≤ Format.binary64.targetExponent (totalExponent m e)) :
    Format.binary64.targetExponent (totalExponent m e) = gridExponent (x * 2 ^ e) := by
  rw [targetExponent_eq] at he ⊢
  have hpos : 0 < x * 2 ^ e := mul_pos hx (two_zpow_pos e)
  rcases Nat.eq_zero_or_pos m with rfl | hm
  · -- no digit is left, so that the number is less than `2 ^ e`
    have hlt : x * 2 ^ e < 2 ^ e := by
      have hone : x < 1 := by simpa using h.lt
      exact mul_lt_of_lt_one_left (two_zpow_pos e) hone
    have hlog : Int.log 2 (x * 2 ^ e) < e := by
      refine (Int.lt_zpow_iff_log_lt (by decide) hpos).mp ?_
      exact_mod_cast hlt
    rw [Nat.log2_zero, gridExponent] at *
    omega
  · have hlog : Int.log 2 (x * 2 ^ e) = Nat.log2 m + e := by
      rw [log_eq_iff hpos, show (Nat.log2 m + e + 1 : ℤ) = (Nat.log2 m + 1 : ℕ) + e by
        push_cast; omega, ← two_zpow_mul, ← two_zpow_mul, zpow_natCast, zpow_natCast]
      constructor
      · refine mul_le_mul_of_nonneg_right (le_trans ?_ h.le) (two_zpow_pos e).le
        exact_mod_cast Nat.log2_self_le hm.ne'
      · refine mul_lt_mul_of_pos_right (h.lt.trans_le ?_) (two_zpow_pos e)
        exact_mod_cast Nat.lt_log2_self
    rw [gridExponent, hlog]

/-- Rounding may carry into one digit more; the mantissa is then shifted once more. -/
lemma shiftToTargetExponent_exact (hm : m ≤ 2 ^ 53) (he : -1074 ≤ e) :
    shiftToTargetExponent Format.binary64 m e .exact
      = if m < 2 ^ 53 then (⟨m, false, false⟩, e) else (⟨2 ^ 52, false, false⟩, e + 1) := by
  rw [shiftToTargetExponent, targetExponent_eq]
  split_ifs with hlt
  · have hlog : Nat.log2 m ≤ 52 := by
      rcases Nat.eq_zero_or_pos m with rfl | hpos
      · decide
      · have hbits := (Nat.log2_lt hpos.ne').mpr hlt
        omega
    have hshift : (max ((Nat.log2 m : ℤ) + e - 52) (-1074) - e).toNat = 0 := by omega
    simp only [shiftToExponent, hshift]
    rw [Int.natCast_zero, Int.add_zero]
    rfl
  · obtain rfl : m = 2 ^ 53 := by omega
    have hshift : (max ((Nat.log2 (2 ^ 53) : ℤ) + e - 52) (-1074) - e).toNat = 1 := by
      rw [Nat.log2_two_pow]
      omega
    simp only [shiftToExponent, hshift]
    rfl

/-! ### Rounding -/

/-- Whether an unpacked number is the given size, rounded, with the given sign. It may be too large
to be packed. -/
def IsRounded (s : Sign) (q : ℚ) : UnpackedFloat → Prop
  | .zero t => t = s ∧ roundedSize q = 0
  | .finite t m e _ => t = s ∧ Digits m e ∧ (m : ℚ) * 2 ^ e = roundedSize q
  | _ => False

/-- The nearest whole number of units is the rounded size, and it has all digits unless the unit is
the least. It may have one digit more than there is room for. -/
lemma size_of_eq_nearestEven {n : ℕ} (hq : 0 < q)
    (hn : (n : ℤ) = nearestEven (q / 2 ^ gridExponent q)) :
    (n : ℚ) * 2 ^ gridExponent q = roundedSize q ∧ n ≤ 2 ^ 53
      ∧ (2 ^ 52 ≤ n ∨ gridExponent q = -1074) := by
  refine ⟨?_, ?_, ?_⟩
  · rw [roundedSize, ← hn, Int.cast_natCast]
  · exact_mod_cast hn.le.trans (nearestEven_div_gridExponent_le q)
  · rcases (le_max_right (Int.log 2 q - 52) (-1074)).lt_or_eq with hlt | heq
    · have hnearest := le_nearestEven_div_gridExponent hq hlt
      rw [← hn] at hnearest
      exact Or.inl (by exact_mod_cast hnearest)
    · exact Or.inr heq.symm

/-- Rounding what a mantissa describes, provided that it has all digits that are needed. -/
lemma isRounded_roundWithAccuracy (h : Describes m a x)
    (he : e ≤ Format.binary64.targetExponent (totalExponent m e)) :
    IsRounded s (x * 2 ^ e) (roundWithAccuracy Format.binary64 s m e a) := by
  have hx : 0 ≤ x := le_trans (Nat.cast_nonneg m) h.le
  have hmantissa := roundedMantissa_shiftToExponent h he
  have hexponent := snd_shiftToExponent (m := m) (a := a) he
  have hleast : -1074 ≤ Format.binary64.targetExponent (totalExponent m e) := le_max_right _ _
  have hgrid := targetExponent_eq_gridExponent h (e := e)
  rw [roundWithAccuracy, shiftToTargetExponent]
  -- from here on only the exponent and the rounded mantissa matter
  generalize Format.binary64.targetExponent (totalExponent m e) = t at *
  generalize shiftToExponent m e a t = first at *
  obtain ⟨em, t'⟩ := first
  simp only at hmantissa hexponent ⊢
  subst hexponent
  generalize em.roundedMantissa = n at *
  rcases hx.eq_or_lt with rfl | hx
  · rw [zero_mul, zero_div] at hmantissa
    obtain rfl : n = 0 := by exact_mod_cast hmantissa.trans (nearestEven_intCast 0)
    rw [shiftToTargetExponent_exact (by decide) hleast, if_pos (by decide), dif_pos rfl, zero_mul]
    exact ⟨rfl, roundedSize_zero⟩
  · have hpos : 0 < x * 2 ^ e := mul_pos hx (two_zpow_pos e)
    -- the mantissa counts units of the number, and only a carry gives it a digit too many
    rw [hgrid hx he] at hmantissa hleast ⊢
    obtain ⟨hsize, hle, hfull⟩ := size_of_eq_nearestEven hpos hmantissa
    rw [shiftToTargetExponent_exact hle hleast]
    by_cases hlt : n < 2 ^ 53
    · rw [if_pos hlt]
      by_cases hzero : n = 0
      · rw [dif_pos hzero]
        exact ⟨rfl, by rw [← hsize, hzero, Nat.cast_zero, zero_mul]⟩
      · rw [dif_neg hzero]
        exact ⟨rfl, ⟨hlt, hleast, hfull⟩, hsize⟩
    · -- the carry leaves a power of two
      obtain rfl : n = 2 ^ 53 := by omega
      rw [if_neg hlt, dif_neg (Nat.two_pow_pos 52).ne']
      have hdigits : Digits (2 ^ 52) (gridExponent (x * 2 ^ e) + 1) :=
        ⟨by decide, by omega, Or.inl le_rfl⟩
      refine ⟨rfl, hdigits, ?_⟩
      rw [← hsize, Int.add_comm, ← two_zpow_mul]
      norm_num
      ring

lemma decreaseExponent_size (m : ℕ) (e t : ℤ) :
    ((decreaseExponent m e t).1 : ℚ) * 2 ^ (decreaseExponent m e t).2 = m * 2 ^ e := by
  have hsum : ((e - t).toNat : ℤ) + (e - (e - t).toNat) = e := by omega
  simp only [decreaseExponent, Nat.shiftLeft_eq]
  push_cast
  rw [← zpow_natCast, mul_assoc, two_zpow_mul, hsum]

lemma log2_mul_two_pow (hm : 0 < m) (k : ℕ) : Nat.log2 (m * 2 ^ k) = Nat.log2 m + k := by
  rw [Nat.log2_eq_iff (Nat.mul_pos hm (Nat.two_pow_pos k)).ne', Nat.add_right_comm, pow_add,
    pow_add _ _ k]
  exact ⟨Nat.mul_le_mul_right _ (Nat.log2_self_le hm.ne'),
    Nat.mul_lt_mul_of_pos_right Nat.lt_log2_self (Nat.two_pow_pos k)⟩

/-- Rounding a mantissa that may have too few digits: zeros are first put behind them. -/
lemma isRounded_round (hm : 0 < m) (e : ℤ) :
    IsRounded s (m * 2 ^ e) (UnpackedFloat.round Format.binary64 s m e) := by
  rw [UnpackedFloat.round,
    ← decreaseExponent_size m e (Format.binary64.targetExponent (totalExponent m e))]
  refine isRounded_roundWithAccuracy (a := .exact) rfl ?_
  rw [targetExponent_eq, targetExponent_eq]
  simp only [decreaseExponent, Nat.shiftLeft_eq]
  rw [log2_mul_two_pow hm]
  omega

/-- The result for a mantissa with a sign, and a unit. -/
lemma isRounded_normalize {n : ℤ} (hn : n ≠ 0) (e : ℤ) :
    IsRounded (if n < 0 then .negative else .positive) (|(n : ℚ)| * 2 ^ e)
      (UnpackedFloat.normalize Format.binary64 n e s) := by
  rw [UnpackedFloat.normalize]
  rcases lt_or_gt_of_ne hn with hneg | hpos
  · have hsize : |(n : ℚ)| = ((-n).toNat : ℕ) := by
      rw [abs_of_neg (by exact_mod_cast hneg), ← Int.cast_natCast, Int.toNat_of_nonneg (by omega),
        Int.cast_neg]
    rw [compare_lt_iff_lt.mpr hneg, if_pos hneg, hsize]
    exact isRounded_round (by omega) e
  · have hsize : |(n : ℚ)| = (n.toNat : ℕ) := by
      rw [abs_of_pos (by exact_mod_cast hpos), ← Int.cast_natCast, Int.toNat_of_nonneg hpos.le]
    rw [compare_gt_iff_gt.mpr hpos, if_neg hpos.not_gt, hsize]
    exact isRounded_round (by omega) e

end Binary64

end Grading
