/-
Rounding rational numbers to the precision of floating-point numbers: 53 binary digits, none of
them below `2 ^ (-1074)`. How large a number may be is not limited here.

* `nearestEven`: the nearest whole number, and of two equally near ones the even one;
* `gridExponent`: the power of two that a number is rounded to a multiple of;
* `roundedSize`, `roundedSize_mono`: the rounded size, which does not decrease when the size grows;
* `rounded`, `abs_rounded`, `rounded_mono`: the rounded number has the rounded size and keeps its
  sign, and rounding keeps the order of numbers;
* `Digits`, `roundedSize_of_lt`: a size with few enough digits is kept;
* `roundedSize_le_of_normal`: rounding adds at most one part in `2 ^ 53`.
-/
import Mathlib.Data.Int.Log
import Mathlib.Data.Rat.Floor
import Mathlib.Tactic.Linarith
import Mathlib.Tactic.NormNum
import Mathlib.Tactic.Ring

namespace Grading

namespace Binary64

variable {p q : ℚ} {m n : ℕ} {e k : ℤ}

/-! ### Whole numbers -/

/-- The nearest whole number; of two equally near ones the even one. -/
def nearestEven (q : ℚ) : ℤ :=
  if Int.fract q < 1 / 2 then ⌊q⌋
  else if 1 / 2 < Int.fract q then ⌊q⌋ + 1
  else ⌊q⌋ + ⌊q⌋ % 2

lemma nearestEven_intCast (k : ℤ) : nearestEven (k : ℚ) = k := by
  simp [nearestEven]

lemma floor_le_nearestEven (q : ℚ) : ⌊q⌋ ≤ nearestEven q := by
  rw [nearestEven]
  split_ifs <;> omega

lemma nearestEven_le_floor (q : ℚ) : nearestEven q ≤ ⌊q⌋ + 1 := by
  rw [nearestEven]
  split_ifs <;> omega

/-- The nearest whole number does not decrease when the number grows. -/
lemma nearestEven_mono (h : p ≤ q) : nearestEven p ≤ nearestEven q := by
  rcases (Int.floor_le_floor h).lt_or_eq with hlt | heq
  · exact (nearestEven_le_floor p).trans ((Int.add_one_le_of_lt hlt).trans (floor_le_nearestEven q))
  · -- between the same whole numbers the fractions are in the order of the numbers
    have hfract : Int.fract p ≤ Int.fract q := by
      rw [Int.fract, Int.fract, heq]
      linarith
    rw [nearestEven, nearestEven, heq]
    split_ifs <;> first | omega | linarith

lemma le_nearestEven (h : (k : ℚ) ≤ q) : k ≤ nearestEven q := by
  rw [← nearestEven_intCast k]
  exact nearestEven_mono h

lemma nearestEven_le (h : q ≤ k) : nearestEven q ≤ k := by
  rw [← nearestEven_intCast k]
  exact nearestEven_mono h

/-- The nearest whole number is at most half a unit above the number. -/
lemma nearestEven_le_add_half (q : ℚ) : (nearestEven q : ℚ) ≤ q + 1 / 2 := by
  have hfloor : (⌊q⌋ : ℚ) + Int.fract q = q := Int.floor_add_fract q
  have hodd : ((⌊q⌋ % 2 : ℤ) : ℚ) ≤ 1 := by
    exact_mod_cast (by omega : ⌊q⌋ % 2 ≤ 1)
  have hpos : 0 ≤ Int.fract q := Int.fract_nonneg q
  rw [nearestEven]
  split_ifs <;> push_cast <;> linarith

/-! ### Powers of two -/

lemma two_zpow_pos (e : ℤ) : (0 : ℚ) < 2 ^ e := zpow_pos (by norm_num) e

lemma two_zpow_mul (e k : ℤ) : (2 : ℚ) ^ e * 2 ^ k = 2 ^ (e + k) :=
  (zpow_add₀ (by norm_num) e k).symm

lemma two_zpow_le (h : e ≤ k) : (2 : ℚ) ^ e ≤ 2 ^ k := zpow_le_zpow_right₀ (by norm_num) h

/-- The position of the first binary digit tells between which powers of two a number lies. -/
lemma log_eq_iff (h : 0 < q) : Int.log 2 q = e ↔ 2 ^ e ≤ q ∧ q < 2 ^ (e + 1) := by
  have hlow : (2 : ℚ) ^ Int.log 2 q ≤ q := by
    exact_mod_cast Int.zpow_log_le_self (by decide) h
  have hhigh : q < (2 : ℚ) ^ (Int.log 2 q + 1) := by
    exact_mod_cast Int.lt_zpow_succ_log_self (by decide) q
  constructor
  · rintro rfl
    exact ⟨hlow, hhigh⟩
  · rintro ⟨hle, hlt⟩
    have hup : e < Int.log 2 q + 1 :=
      (zpow_lt_zpow_iff_right₀ (by norm_num)).mp (hle.trans_lt hhigh)
    have hdown : Int.log 2 q < e + 1 :=
      (zpow_lt_zpow_iff_right₀ (by norm_num)).mp (hlow.trans_lt hlt)
    omega

/-! ### Numbers of 53 digits -/

/-- The power of two that a number is rounded to a multiple of. -/
def gridExponent (q : ℚ) : ℤ := max (Int.log 2 q - 52) (-1074)

/-- A number that is not negative, rounded. -/
def roundedSize (q : ℚ) : ℚ := nearestEven (q / 2 ^ gridExponent q) * 2 ^ gridExponent q

/-- A number rounded to 53 digits. -/
def rounded (q : ℚ) : ℚ := if q < 0 then -roundedSize (-q) else roundedSize q

lemma gridExponent_mono (hp : 0 < p) (h : p ≤ q) : gridExponent p ≤ gridExponent q :=
  max_le_max_right _ (Int.sub_le_sub_right (Int.log_mono_right hp h) _)

/-- In units of the last digit, a number is below `2 ^ 53`. -/
lemma div_gridExponent_lt (q : ℚ) : q / 2 ^ gridExponent q < 2 ^ 53 := by
  have hlog : q < (2 : ℚ) ^ (Int.log 2 q + 1) := by
    exact_mod_cast Int.lt_zpow_succ_log_self (by decide) q
  rw [div_lt_iff₀ (two_zpow_pos _), ← zpow_natCast, two_zpow_mul]
  refine hlog.trans_le (two_zpow_le ?_)
  have hgrid : Int.log 2 q - 52 ≤ gridExponent q := le_max_left _ _
  push_cast
  omega

/-- Above the least unit, it is at least `2 ^ 52`. -/
lemma le_div_gridExponent (hq : 0 < q) (h : -1074 < gridExponent q) :
    2 ^ 52 ≤ q / 2 ^ gridExponent q := by
  have hlog : (2 : ℚ) ^ Int.log 2 q ≤ q := by
    exact_mod_cast Int.zpow_log_le_self (by decide) hq
  rw [le_div_iff₀ (two_zpow_pos _), ← zpow_natCast, two_zpow_mul]
  refine le_trans (two_zpow_le ?_) hlog
  rw [gridExponent] at h ⊢
  push_cast
  omega

/-- The multiple of the unit that a number is rounded to. -/
lemma nearestEven_div_gridExponent_le (q : ℚ) :
    nearestEven (q / 2 ^ gridExponent q) ≤ 2 ^ 53 := by
  refine nearestEven_le ?_
  push_cast
  exact (div_gridExponent_lt q).le

lemma le_nearestEven_div_gridExponent (hq : 0 < q) (h : -1074 < gridExponent q) :
    2 ^ 52 ≤ nearestEven (q / 2 ^ gridExponent q) := by
  refine le_nearestEven ?_
  push_cast
  exact le_div_gridExponent hq h

lemma nearestEven_nonneg (h : 0 ≤ q) : 0 ≤ nearestEven q := le_nearestEven (by exact_mod_cast h)

lemma roundedSize_zero : roundedSize 0 = 0 := by
  have hzero : nearestEven 0 = 0 := by exact_mod_cast nearestEven_intCast 0
  rw [roundedSize, zero_div, hzero, Int.cast_zero, zero_mul]

lemma roundedSize_nonneg (h : 0 ≤ q) : 0 ≤ roundedSize q := by
  have hnearest : (0 : ℚ) ≤ nearestEven (q / 2 ^ gridExponent q) := by
    exact_mod_cast nearestEven_nonneg (div_nonneg h (two_zpow_pos _).le)
  exact mul_nonneg hnearest (two_zpow_pos _).le

/-- Rounding does not decrease when a number grows. With the same unit the nearest multiples are in
order; with a larger one, a power of two lies between the rounded numbers. -/
lemma roundedSize_mono (hp : 0 ≤ p) (h : p ≤ q) : roundedSize p ≤ roundedSize q := by
  rcases hp.lt_or_eq with hpos | rfl
  · rcases (gridExponent_mono hpos h).lt_or_eq with hlt | heq
    · have hbelow : roundedSize p ≤ 2 ^ (53 + gridExponent p) := by
        rw [roundedSize, ← two_zpow_mul]
        refine mul_le_mul_of_nonneg_right ?_ (two_zpow_pos _).le
        exact_mod_cast nearestEven_div_gridExponent_le p
      have habove : (2 : ℚ) ^ (52 + gridExponent q) ≤ roundedSize q := by
        have hnormal : -1074 < gridExponent q := (le_max_right _ _).trans_lt hlt
        rw [roundedSize, ← two_zpow_mul]
        refine mul_le_mul_of_nonneg_right ?_ (two_zpow_pos _).le
        exact_mod_cast le_nearestEven_div_gridExponent (hpos.trans_le h) hnormal
      exact hbelow.trans ((two_zpow_le (by omega)).trans habove)
    · rw [roundedSize, roundedSize, heq]
      refine mul_le_mul_of_nonneg_right ?_ (two_zpow_pos _).le
      have hdiv : p / 2 ^ gridExponent q ≤ q / 2 ^ gridExponent q :=
        div_le_div_of_nonneg_right h (two_zpow_pos _).le
      exact_mod_cast nearestEven_mono hdiv
  · rw [roundedSize_zero]
    exact roundedSize_nonneg h

lemma rounded_of_nonneg (h : 0 ≤ q) : rounded q = roundedSize q := if_neg h.not_gt

lemma rounded_nonneg (h : 0 ≤ q) : 0 ≤ rounded q := by
  rw [rounded_of_nonneg h]
  exact roundedSize_nonneg h

lemma rounded_neg (q : ℚ) : rounded (-q) = -rounded q := by
  rcases lt_trichotomy q 0 with hq | rfl | hq
  · rw [rounded_of_nonneg (by linarith), rounded, if_pos hq, neg_neg]
  · rw [neg_zero, rounded_of_nonneg le_rfl, roundedSize_zero, neg_zero]
  · rw [rounded_of_nonneg hq.le, rounded, if_pos (by linarith), neg_neg]

lemma abs_rounded (q : ℚ) : |rounded q| = roundedSize |q| := by
  rcases le_or_gt 0 q with hq | hq
  · rw [rounded_of_nonneg hq, abs_of_nonneg hq, abs_of_nonneg (roundedSize_nonneg hq)]
  · rw [rounded, if_pos hq, abs_of_neg hq, abs_neg,
      abs_of_nonneg (roundedSize_nonneg (by linarith))]

/-- Rounding keeps the order of numbers. -/
lemma rounded_mono (h : p ≤ q) : rounded p ≤ rounded q := by
  rcases le_or_gt 0 p with hp | hp
  · rw [rounded_of_nonneg hp, rounded_of_nonneg (hp.trans h)]
    exact roundedSize_mono hp h
  · have hsize : 0 ≤ roundedSize (-p) := roundedSize_nonneg (by linarith)
    rw [rounded, if_pos hp]
    rcases le_or_gt 0 q with hq | hq
    · rw [rounded_of_nonneg hq]
      exact (neg_nonpos.mpr hsize).trans (roundedSize_nonneg hq)
    · rw [rounded, if_pos hq]
      exact neg_le_neg (roundedSize_mono (by linarith) (neg_le_neg h))

/-- A number that is smaller in size is smaller in size after rounding. -/
lemma abs_rounded_le (h : |p| ≤ |q|) : |rounded p| ≤ |rounded q| := by
  rw [abs_rounded, abs_rounded]
  exact roundedSize_mono (abs_nonneg p) h

/-! ### Numbers that are kept -/

/-- Whether a mantissa and an exponent are those of a floating-point number: the mantissa has 53
digits, or fewer if the unit is the least one. -/
structure Digits (m : ℕ) (e : ℤ) : Prop where
  /-- No more than 53 digits. -/
  lt : m < 2 ^ 53
  /-- No unit below the least. -/
  le : -1074 ≤ e
  /-- All digits are used, unless the unit is the least. -/
  full : 2 ^ 52 ≤ m ∨ e = -1074

/-- Up to 53 digits are kept, in any unit that is not below the least. -/
lemma roundedSize_of_lt (hm : m < 2 ^ 53) (he : -1074 ≤ e) :
    roundedSize ((m : ℚ) * 2 ^ e) = (m : ℚ) * 2 ^ e := by
  rcases Nat.eq_zero_or_pos m with rfl | hpos
  · rw [Nat.cast_zero, zero_mul, roundedSize_zero]
  · have hsize : (0 : ℚ) < m * 2 ^ e := mul_pos (by exact_mod_cast hpos) (two_zpow_pos e)
    have hgrid : gridExponent ((m : ℚ) * 2 ^ e) ≤ e := by
      have hlt : (m : ℚ) * 2 ^ e < 2 ^ (53 + e) := by
        rw [← two_zpow_mul]
        exact mul_lt_mul_of_pos_right (by exact_mod_cast hm) (two_zpow_pos e)
      have hlog : Int.log 2 ((m : ℚ) * 2 ^ e) < 53 + e :=
        (Int.lt_zpow_iff_log_lt (by decide) hsize).mp (by exact_mod_cast hlt)
      rw [gridExponent]
      omega
    -- in the smaller unit it is a whole number too
    have hwhole : (m : ℚ) * 2 ^ e / 2 ^ gridExponent ((m : ℚ) * 2 ^ e)
        = (m * 2 ^ (e - gridExponent ((m : ℚ) * 2 ^ e)).toNat : ℕ) := by
      have hsum : ((e - gridExponent ((m : ℚ) * 2 ^ e)).toNat : ℤ)
          + gridExponent ((m : ℚ) * 2 ^ e) = e := by omega
      rw [div_eq_iff (two_zpow_pos _).ne']
      push_cast
      rw [mul_assoc, ← zpow_natCast, two_zpow_mul, hsum]
    rw [roundedSize, hwhole, ← Int.cast_natCast, nearestEven_intCast, Int.cast_natCast, ← hwhole,
      div_mul_cancel₀ _ (two_zpow_pos _).ne']

/-- The size of a floating-point number is kept. -/
lemma Digits.roundedSize_eq (h : Digits m e) :
    roundedSize ((m : ℚ) * 2 ^ e) = (m : ℚ) * 2 ^ e := roundedSize_of_lt h.lt h.le

/-- Rounding adds at most one part in `2 ^ 53` to a number that is not too small. -/
lemma roundedSize_le_of_normal (h : 2 ^ (-1022 : ℤ) ≤ q) :
    roundedSize q ≤ q * (1 + 2 ^ (-53 : ℤ)) := by
  have hpos : 0 < q := (two_zpow_pos _).trans_le h
  have hlog : (2 : ℚ) ^ Int.log 2 q ≤ q := by
    exact_mod_cast Int.zpow_log_le_self (by decide) hpos
  have hmin : -1022 ≤ Int.log 2 q := by
    have hmono := Int.log_mono_right (b := 2) (two_zpow_pos _) h
    rwa [show (2 : ℚ) = ((2 : ℕ) : ℚ) by norm_num, Int.log_zpow (by decide)] at hmono
  have hgrid : gridExponent q = Int.log 2 q - 52 := max_eq_left (by omega)
  calc roundedSize q
      ≤ (q / 2 ^ gridExponent q + 1 / 2) * 2 ^ gridExponent q :=
        mul_le_mul_of_nonneg_right (nearestEven_le_add_half _) (two_zpow_pos _).le
    _ = q + 2 ^ Int.log 2 q * 2 ^ (-53 : ℤ) := by
        rw [add_mul, div_mul_cancel₀ _ (two_zpow_pos _).ne', hgrid, two_zpow_mul,
          show Int.log 2 q + -53 = -1 + (Int.log 2 q - 52) by omega, ← two_zpow_mul]
        norm_num
    _ ≤ q + q * 2 ^ (-53 : ℤ) := by
        have hpart := mul_le_mul_of_nonneg_right hlog (two_zpow_pos (-53)).le
        linarith
    _ = q * (1 + 2 ^ (-53 : ℤ)) := by ring

end Binary64

end Grading
