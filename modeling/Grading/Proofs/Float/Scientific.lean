/-
Whole numbers and powers of ten as floating-point numbers.

* `rounds_ofScientific`, `rounds_ofScientific_true`: what is written as digits with a power of ten,
  or over one, is that number, rounded;
* `rounds_ofNat`, `rounds_power`: so is a whole number, and a power of ten.
-/
import Grading.Json.Numeric
import Grading.Proofs.Float.Quotient

namespace Grading

namespace Binary64

open Float.Model (Format UnpackedFloat)

variable {m k : ℕ}

/-- A whole number of up to 53 digits is kept. -/
lemma rounded_natCast (h : m < 2 ^ 53) : rounded (m : ℚ) = m := by
  have hkept := roundedSize_of_lt h (show -1074 ≤ (0 : ℤ) by decide)
  rw [zpow_zero, mul_one] at hkept
  rw [rounded_of_nonneg (Nat.cast_nonneg m), hkept]

/-- A whole number of 64 bits as a floating-point number. -/
lemma rounds_toFloat (n : UInt64) : Rounds n.toFloat n.toNat := by
  have hround := rounds_pack_normalize (n.toNat : ℤ) 0 .positive
  rw [zpow_zero, mul_one, Int.cast_natCast] at hround
  exact hround

/-- One of up to 53 digits is kept. -/
lemma value_toFloat (h : m < 2 ^ 53) :
    m.toUInt64.toFloat.isFinite = true ∧ value m.toUInt64.toFloat = m := by
  have hword : m.toUInt64.toNat = m := UInt64.toNat_ofNat_of_lt (h.trans (by decide))
  have hm := rounds_toFloat m.toUInt64
  rw [hword] at hm
  have hfinite : m.toUInt64.toFloat.isFinite = true := by
    have hlt : (m : ℚ) < 2 ^ (53 : ℤ) := by exact_mod_cast h
    rw [hm.isFinite_iff, rounded_natCast h, abs_of_nonneg (Nat.cast_nonneg m)]
    exact hlt.trans_le (two_zpow_le (by decide))
  exact ⟨hfinite, (hm.value_eq hfinite).trans (rounded_natCast h)⟩

/-- The powers of ten that are looked up are exact. -/
lemma value_powerOfTen (k : Fin 23) :
    (Float.exactlyRepresentablePowersOfTen[k]).isFinite = true ∧
      value Float.exactlyRepresentablePowersOfTen[k] = 10 ^ (k : ℕ) := by
  revert k
  decide +kernel

/-- How such a number is computed in general: an exact product is rounded. -/
lemma rounds_pack_ofScientific (m : ℕ) (hk : k ≤ 2048) :
    Rounds (.ofModel (Float.Model.ofScientific m k)) (m * 10 ^ k) := by
  change Rounds (.ofModel (Float.Model.pack (UnpackedFloat.ofScientific Format.binary64 m k))) _
  rw [UnpackedFloat.ofScientific]
  split
  case isTrue hm =>
    rw [hm, Nat.cast_zero, zero_mul]
    exact rounds_pack_zero _
  case isFalse hm =>
    have hbig : ¬(k : ℤ) > 2 ^ 11 := by omega
    have hsmall : ¬(k : ℤ) < -((2 ^ 11 : ℤ) + Nat.log2 m) := by omega
    have hshift : m <<< Format.binary64.mantissaBits = m * 2 ^ 53 := Nat.shiftLeft_eq m 53
    have hpos : 0 < m <<< Format.binary64.mantissaBits := by
      rw [hshift]
      exact Nat.mul_pos (Nat.pos_of_ne_zero hm) (Nat.two_pow_pos 53)
    have hten : 0 < 10 ^ k := Nat.pow_pos (by decide)
    have hdigits : 2 ^ 52 ≤ m <<< Format.binary64.mantissaBits * 10 ^ k := by
      refine le_trans ?_ (Nat.le_mul_of_pos_right _ hten)
      rw [hshift]
      omega
    have hvalue : (m : ℚ) * 10 ^ k
        = signed .positive ((m <<< Format.binary64.mantissaBits : ℕ) * 2 ^ (-53 : ℤ))
          * signed .positive ((10 ^ k : ℕ) * 2 ^ (0 : ℤ)) := by
      rw [hshift, signed, signed, zpow_zero, mul_one]
      push_cast
      norm_num [mul_assoc]
    rw [if_neg hbig, if_neg hsmall, if_pos (Int.natCast_nonneg k), hvalue]
    exact rounds_pack_mul hpos hten (Or.inl hdigits)

/-- How a number over a power of ten is computed in general: an exact quotient is rounded. -/
lemma rounds_pack_ofScientific_neg (hk : 0 < k) (hk' : k ≤ 2048 + Nat.log2 m) :
    Rounds (.ofModel (Float.Model.ofScientific m (-k))) (m / 10 ^ k) := by
  change Rounds (.ofModel (Float.Model.pack
    (UnpackedFloat.ofScientific Format.binary64 m (-k)))) _
  rw [UnpackedFloat.ofScientific]
  split
  case isTrue hm =>
    rw [hm, Nat.cast_zero, zero_div]
    exact rounds_pack_zero _
  case isFalse hm =>
    have hbig : ¬(-(k : ℤ)) > 2 ^ 11 := by omega
    have hsmall : ¬(-(k : ℤ)) < -((2 ^ 11 : ℤ) + Nat.log2 m) := by omega
    have hpower : (- -(k : ℤ)).toNat = k := by omega
    have hvalue : (m : ℚ) / 10 ^ k
        = signed .positive (m * 2 ^ (0 : ℤ)) / signed .positive ((10 ^ k : ℕ) * 2 ^ (0 : ℤ)) := by
      rw [signed, signed, zpow_zero, mul_one, mul_one]
      push_cast
      rfl
    rw [if_neg hbig, if_neg hsmall, if_neg (by omega : ¬0 ≤ -(k : ℤ)), hvalue]
    simp only [hpower]
    exact rounds_pack_div (Nat.pos_of_ne_zero hm) (Nat.pow_pos (by decide))

/-- What is written as digits with a power of ten is that number, rounded. -/
lemma rounds_ofScientific (m : ℕ) (hk : k ≤ 2048) :
    Rounds (Float.ofScientific m false k) (m * 10 ^ k) := by
  rw [Float.ofScientific]
  split
  case isTrue h =>
    obtain ⟨hpower, hpowerValue⟩ := value_powerOfTen ⟨k, by omega⟩
    obtain ⟨hm, hmValue⟩ := value_toFloat h.1
    have hproduct := rounds_mul hm hpower
    rw [hmValue, hpowerValue] at hproduct
    exact hproduct
  case isFalse => exact rounds_pack_ofScientific m hk

/-- So is what is written as digits over a power of ten. -/
lemma rounds_ofScientific_true (m : ℕ) (hk : k ≤ 2048 + Nat.log2 m) :
    Rounds (Float.ofScientific m true k) (m / 10 ^ k) := by
  rw [Float.ofScientific]
  split
  case isTrue h =>
    obtain ⟨hpower, hpowerValue⟩ := value_powerOfTen ⟨k, by omega⟩
    obtain ⟨hm, hmValue⟩ := value_toFloat h.1
    have hpos : (0 : ℚ) < 10 ^ k := by positivity
    have hquotient := rounds_div hm hpower (by rw [hpowerValue]; exact hpos.ne')
    rw [hmValue, hpowerValue] at hquotient
    exact hquotient
  case isFalse =>
    simp only [if_true, Int.negOfNat_eq]
    rcases Nat.eq_zero_or_pos k with rfl | hpos
    · rw [pow_zero, div_one]
      simpa using rounds_pack_ofScientific m (Nat.zero_le 2048)
    · exact rounds_pack_ofScientific_neg hpos hk

/-- A whole number as a floating-point number. -/
lemma rounds_ofNat (m : ℕ) : Rounds (Float.ofNat m) m := by
  have hrounds := rounds_ofScientific m (Nat.zero_le 2048)
  rw [pow_zero, mul_one] at hrounds
  exact hrounds

/-- A power of ten as a floating-point number. -/
lemma rounds_power (hk : k ≤ 2048) : Rounds (Json.power k) (10 ^ k) := by
  have hrounds := rounds_ofScientific 1 hk
  rw [Nat.cast_one, one_mul] at hrounds
  exact hrounds

end Binary64

end Grading
