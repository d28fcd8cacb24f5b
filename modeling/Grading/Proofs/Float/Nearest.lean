/-
The floating-point number that is read from a decimal is the decimal, rounded.

* `rounds_infinity`, `rounds_zero_of_small`: numbers that are too large become infinite, and those
  that are too small zero;
* `rounds_nearest`: what is read from digits with a power of ten;
* `Numeral.number`, `Numeral.rounds_toFloat`: what is read from a numeral;
* `Numeral.ofDecimal`, `exists_readNumber?`: every finite number is written by some numeral, and
  read from it up to the sign of a zero.
-/
import Grading.Proofs.Decimal.Shortest
import Grading.Proofs.Float.Order
import Grading.Proofs.Float.Scientific
import Grading.Proofs.Float.Signs
import Grading.Proofs.Number.Numerals

namespace Grading

open Decimal (digits nearest)

namespace Binary64

open Float.Model.UnpackedFloat (Sign)

variable {m n : ℕ} {e : ℤ} {q : ℚ} {x : Float}

/-! ### Too large and too small numbers -/

lemma roundedSize_limit : roundedSize limit = limit := by
  have hdigits : Digits (2 ^ 52) 972 := ⟨by decide, by decide, Or.inl le_rfl⟩
  have hlimit : limit = ((2 ^ 52 : ℕ) : ℚ) * 2 ^ (972 : ℤ) := by
    rw [show ((2 ^ 52 : ℕ) : ℚ) = 2 ^ (52 : ℤ) by norm_num, two_zpow_mul]
    rfl
  rw [hlimit]
  exact hdigits.roundedSize_eq

lemma two_zpow_le_ten_zpow {k l : ℕ} (h : 2 ^ k ≤ 10 ^ l) : (2 : ℚ) ^ (k : ℤ) ≤ 10 ^ (l : ℤ) := by
  exact_mod_cast h

lemma limit_le_ten_zpow : limit ≤ 10 ^ (310 : ℤ) :=
  two_zpow_le_ten_zpow (k := 1024) (l := 310) (by decide +kernel)

/-- A number that is too large becomes infinite. -/
lemma rounds_infinity (h : limit ≤ |q|) : Rounds (1 / 0) q where
  isFinite_iff := by
    have hrounded : limit ≤ |rounded q| := by
      rw [abs_rounded, ← roundedSize_limit]
      exact roundedSize_mono limit_pos.le h
    exact iff_of_false (by decide) hrounded.not_gt
  value_eq hfinite := absurd hfinite (by decide)

/-- A quarter of the least unit is rounded to nothing. -/
lemma roundedSize_quarter : roundedSize (2 ^ (-1076 : ℤ)) = 0 := by
  have hlog : Int.log 2 ((2 : ℚ) ^ (-1076 : ℤ)) = -1076 :=
    (log_eq_iff (two_zpow_pos _)).mpr ⟨le_rfl, zpow_lt_zpow_right₀ (by norm_num) (by norm_num)⟩
  have hgrid : gridExponent ((2 : ℚ) ^ (-1076 : ℤ)) = -1074 := by
    rw [gridExponent, hlog]
    rfl
  have hquarter : (2 : ℚ) ^ (-1076 : ℤ) / 2 ^ (-1074 : ℤ) = 1 / 4 := by
    rw [← zpow_sub₀ (by norm_num : (2 : ℚ) ≠ 0)]
    norm_num
  have hnearest : nearestEven (1 / 4) = 0 := by
    have hfloor : ⌊(1 / 4 : ℚ)⌋ = 0 := by norm_num
    have hfract : Int.fract (1 / 4 : ℚ) = 1 / 4 := by
      rw [Int.fract, hfloor]
      norm_num
    rw [nearestEven, hfract, if_pos (by norm_num), hfloor]
  rw [roundedSize, hgrid, hquarter, hnearest, Int.cast_zero, zero_mul]

lemma ten_zpow_le_quarter : (10 : ℚ) ^ (-331 : ℤ) ≤ 2 ^ (-1076 : ℤ) := by
  rw [zpow_neg, zpow_neg, inv_le_inv₀ (by positivity) (by positivity)]
  exact two_zpow_le_ten_zpow (k := 1076) (l := 331) (by decide +kernel)

lemma rounds_zero : Rounds 0 0 := by
  have hzero := rounds_value (x := 0) (by decide)
  rwa [value_zero] at hzero

/-- A number that is too small becomes zero. -/
lemma rounds_zero_of_small (h : |q| ≤ 2 ^ (-1076 : ℤ)) : Rounds 0 q := by
  have hsize : roundedSize |q| = 0 := by
    refine le_antisymm ?_ (roundedSize_nonneg (abs_nonneg q))
    rw [← roundedSize_quarter]
    exact roundedSize_mono (abs_nonneg q) h
  have hrounded : rounded q = rounded 0 := by
    rw [rounded_zero, ← abs_eq_zero, abs_rounded, hsize]
  exact ⟨hrounded ▸ rounds_zero.isFinite_iff, hrounded ▸ rounds_zero.value_eq⟩

/-! ### Digits with a power of ten -/

lemma ten_zpow_mul (e k : ℤ) : (10 : ℚ) ^ e * 10 ^ k = 10 ^ (e + k) :=
  (zpow_add₀ (by norm_num) e k).symm

lemma ten_zpow_le {k : ℤ} (h : e ≤ k) : (10 : ℚ) ^ e ≤ 10 ^ k :=
  zpow_le_zpow_right₀ (by norm_num) h

/-- The number of digits tells between which powers of ten a decimal lies. -/
lemma bounds_of_length_digits (hm : 0 < m) (e : ℤ) :
    (10 : ℚ) ^ ((digits m).length - 1 + e) ≤ m * 10 ^ e
      ∧ (m : ℚ) * 10 ^ e ≤ 10 ^ ((digits m).length + e) := by
  have hpos : 0 < (digits m).length := List.length_pos_iff.mpr (Decimal.digits_ne_nil m)
  have hcount : ((digits m).length - 1 : ℤ) = ((digits m).length - 1 : ℕ) := by omega
  rw [hcount, ← ten_zpow_mul, ← ten_zpow_mul, zpow_natCast, zpow_natCast]
  constructor <;> refine mul_le_mul_of_nonneg_right ?_ (Decimal.ten_zpow_pos e).le
  · exact_mod_cast Decimal.ten_pow_le_of_digits hm
  · exact_mod_cast (Decimal.lt_ten_pow_length m).le

/-- There are not more decimal digits than binary ones. -/
lemma length_digits_le (hm : 0 < m) : (digits m).length ≤ Nat.log2 m + 1 := by
  have hpow : 2 ^ ((digits m).length - 1) ≤ m :=
    (Nat.pow_le_pow_left (by decide) _).trans (Decimal.ten_pow_le_of_digits hm)
  have hlog := (Nat.le_log2 hm.ne').mpr hpow
  omega

/-- Without its sign, what is read from digits with a power of ten is that number, rounded. -/
lemma rounds_nearest_false (m : ℕ) (e : ℤ) : Rounds (nearest false m e) (m * 10 ^ e) := by
  rw [nearest]
  simp only [Bool.false_eq_true, if_false]
  rcases Nat.eq_zero_or_pos m with rfl | hm
  · rw [if_pos rfl, Nat.cast_zero, zero_mul]
    exact rounds_zero
  · obtain ⟨hlow, hhigh⟩ := bounds_of_length_digits hm e
    have hsize : (0 : ℚ) ≤ m * 10 ^ e :=
      mul_nonneg (Nat.cast_nonneg m) (Decimal.ten_zpow_pos e).le
    rw [if_neg hm.ne']
    split_ifs with hlarge hsmall
    · -- so large that it becomes infinite
      refine rounds_infinity ?_
      rw [abs_of_nonneg hsize]
      calc limit ≤ 10 ^ (310 : ℤ) := limit_le_ten_zpow
        _ ≤ 10 ^ ((digits m).length - 1 + e) := ten_zpow_le (by omega)
        _ ≤ m * 10 ^ e := hlow
    · -- so small that it becomes zero
      refine rounds_zero_of_small ?_
      rw [abs_of_nonneg hsize]
      calc (m : ℚ) * 10 ^ e ≤ 10 ^ ((digits m).length + e) := hhigh
        _ ≤ 10 ^ (-331 : ℤ) := ten_zpow_le (by omega)
        _ ≤ 2 ^ (-1076 : ℤ) := ten_zpow_le_quarter
    · -- in between, the power of ten is one that can be computed with
      have hdigits := length_digits_le hm
      rcases le_or_gt 0 e with hnonneg | hneg
      · have hpower : (e.natAbs : ℤ) = e := Int.natAbs_of_nonneg hnonneg
        rw [decide_eq_false (by omega), ← hpower, Int.natAbs_natCast, zpow_natCast]
        exact rounds_ofScientific m (by omega)
      · have hpower : e = -(e.natAbs : ℤ) := by omega
        have hquotient := rounds_ofScientific_true m (k := e.natAbs) (by omega)
        rw [decide_eq_true hneg]
        rwa [hpower, zpow_neg, zpow_natCast, ← div_eq_mul_inv, ← hpower]

/-- What is read from digits with a sign and a power of ten is that number, rounded. -/
lemma rounds_nearest (negative : Bool) (m : ℕ) (e : ℤ) :
    Rounds (nearest negative m e)
      (signed (if negative then .negative else .positive) (m * 10 ^ e)) := by
  cases negative with
  | false => exact rounds_nearest_false m e
  | true => exact (rounds_nearest_false m e).neg

end Binary64

/-! ### Numerals -/

namespace Numeral

open Binary64 (Rounds signed)

/-- The number that a numeral writes. -/
def number (n : Numeral) : ℚ :=
  signed (if n.negative then .negative else .positive)
    (Decimal.value (n.whole ++ n.fraction) * 10 ^ (-(n.fraction.length : ℤ)))

/-- What is read from a numeral is the number that it writes, rounded. -/
lemma rounds_toFloat (n : Numeral) : Rounds n.toFloat n.number :=
  Binary64.rounds_nearest n.negative _ _

/-- The numeral with the given digits, of which so many stand after the point. -/
def ofDecimal (negative : Bool) (digits : ℕ) (places : ℕ) : Numeral :=
  let ds := Decimal.padded (places + 1) digits
  ⟨negative, ds.take (ds.length - places), ds.drop (ds.length - places)⟩

lemma lt_length_padded (width n : ℕ) : width < (Decimal.padded (width + 1) n).length := by
  rw [Decimal.padded, List.length_append, List.length_replicate]
  omega

lemma length_fraction_ofDecimal (negative : Bool) (digits places : ℕ) :
    (ofDecimal negative digits places).fraction.length = places := by
  have hlength := lt_length_padded places digits
  rw [ofDecimal, List.length_drop]
  omega

lemma proper_ofDecimal (negative : Bool) (digits places : ℕ) :
    (ofDecimal negative digits places).Proper where
  whole := by
    have hlength := lt_length_padded places digits
    refine Decimal.isDigits_iff.mpr ⟨List.ne_nil_of_length_pos ?_, fun c hc => ?_⟩
    · rw [ofDecimal, List.length_take]
      omega
    · exact Decimal.isDigit_of_mem_padded (List.mem_of_mem_take hc)
  fraction := by
    refine or_iff_not_imp_left.mpr fun hne => Decimal.isDigits_iff.mpr ⟨hne, fun c hc => ?_⟩
    exact Decimal.isDigit_of_mem_padded (List.mem_of_mem_drop hc)

lemma number_ofDecimal (negative : Bool) (digits places : ℕ) :
    (ofDecimal negative digits places).number
      = signed (if negative then .negative else .positive) (digits * 10 ^ (-(places : ℤ))) := by
  rw [number, length_fraction_ofDecimal, ofDecimal, List.take_append_drop, Decimal.padded,
    Decimal.value_zeros_append, Decimal.value_digits]

end Numeral

variable {x : Float}

/-- Every finite number is written by some numeral. -/
lemma exists_numeral (hx : x.isFinite = true) :
    ∃ n : Numeral, n.Proper ∧ n.number = Binary64.value x := by
  rcases Binary64.zero_or_digits hx with ⟨s, hu⟩ | ⟨s, m, e, hm, hu, -, -⟩
  · refine ⟨.ofDecimal false 0 0, Numeral.proper_ofDecimal _ _ _, ?_⟩
    rw [Numeral.number_ofDecimal, Binary64.value_of_zero hu, Nat.cast_zero, zero_mul]
    exact Binary64.signed_zero _
  · obtain ⟨d, hd⟩ : ∃ d, d = (Decimal.Binary.exact ⟨m, e⟩) := ⟨_, rfl⟩
    have hexponent : d.exponent = -((-d.exponent).toNat : ℤ) := by
      have hle : d.exponent ≤ 0 := hd ▸ min_le_right e 0
      omega
    have hexact : (d.coefficient : ℚ) * 10 ^ d.exponent = m * 2 ^ e :=
      hd ▸ Decimal.Binary.toRat_exact ⟨m, e⟩
    refine ⟨.ofDecimal (s == .negative) d.coefficient (-d.exponent).toNat,
      Numeral.proper_ofDecimal _ _ _, ?_⟩
    rw [Numeral.number_ofDecimal, ← hexponent, hexact, Binary64.value_of_finite hu]
    cases s <;> rfl

/-- So it is read from some text, up to the sign of a zero. -/
lemma exists_readNumber? (hx : x.isFinite = true) :
    ∃ s y, readNumber? s = some y ∧ (y == x) = true := by
  obtain ⟨n, hproper, hnumber⟩ := exists_numeral hx
  have hread := hnumber ▸ n.rounds_toFloat
  have hself := Binary64.rounds_value hx
  have hfinite : n.toFloat.isFinite = true := hread.isFinite_iff.mpr (hself.isFinite_iff.mp hx)
  refine ⟨n.render, n.toFloat, readNumber?_eq_some_iff.mpr ⟨n, hproper, rfl, rfl⟩, ?_⟩
  exact (Binary64.beq_iff_value_eq hfinite hx).mpr
    ((hread.value_eq hfinite).trans (hself.value_eq hx).symm)

end Grading
