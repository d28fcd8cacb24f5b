/-
Numbers with a given number of places.

* `Writes`, `Writes.unique`: which number a text writes, exactly; it does not write two;
* `nearestEven_neg`, `roundDiv_toEven`, `roundDiv_inUnits`: a number is rounded to the nearest whole
  number of units, be it below zero or not;
* `exists_fixed_eq_render`, `writes_fixed`: so a finite number is shown as the nearest decimal with
  so many places.
-/
import Grading.Proofs.Float.Nearest

namespace Grading

open Binary64 (nearestEven signed value)
open Decimal (Binary fixed fixedUnits roundDiv signText)
open Float.Model.UnpackedFloat (Sign)

variable {s : Text} {n : Numeral} {p q : ℚ} {x : Float} {places : ℕ}

/-! ### Texts and the numbers they write -/

/-- Whether a text writes a number, exactly: an optional minus, digits, and optionally a point with
more digits. -/
def Writes (s : Text) (q : ℚ) : Prop := ∃ n : Numeral, n.Proper ∧ n.render = s ∧ n.number = q

lemma Numeral.Proper.writes (h : n.Proper) : Writes n.render n.number := ⟨n, h, rfl, rfl⟩

/-- A text does not write two numbers. -/
lemma Writes.unique (hp : Writes s p) (hq : Writes s q) : p = q := by
  obtain ⟨n, hn, hnrender, rfl⟩ := hp
  obtain ⟨m, hm, hmrender, rfl⟩ := hq
  have hread := Numeral.ofText?_eq_some_iff.mpr ⟨hn, hnrender⟩
  rw [Numeral.ofText?_eq_some_iff.mpr ⟨hm, hmrender⟩] at hread
  rw [Option.some.inj hread]

/-! ### Rounding to whole units -/

namespace Binary64

/-- Rounding to the nearest whole number treats both signs alike. -/
lemma nearestEven_neg (q : ℚ) : nearestEven (-q) = -nearestEven q := by
  by_cases hq : Int.fract q = 0
  · obtain ⟨k, rfl⟩ := Int.fract_eq_zero_iff.mp hq
    rw [← Int.cast_neg, nearestEven_intCast, nearestEven_intCast]
  · -- between two whole numbers, the fractions of both signs make up one
    have hfract : Int.fract (-q) = 1 - Int.fract q := Int.fract_neg hq
    have hfloor : ⌊-q⌋ = -⌊q⌋ - 1 := by
      have hsum := Int.floor_add_fract q
      have hneg := Int.floor_add_fract (-q)
      rw [hfract] at hneg
      have hcast : ((⌊-q⌋ : ℤ) : ℚ) = (-⌊q⌋ - 1 : ℤ) := by
        push_cast
        linarith
      exact_mod_cast hcast
    rw [nearestEven, nearestEven, hfract, hfloor]
    split_ifs <;> first | omega | linarith

lemma nearestEven_signed (s : Sign) (q : ℚ) :
    (nearestEven (signed s q) : ℚ) = signed s (nearestEven q) := by
  cases s with
  | positive => rfl
  | negative => rw [signed, signed, nearestEven_neg, Int.cast_neg]

lemma signed_mul (s : Sign) (p q : ℚ) : signed s (p * q) = signed s p * q := by
  cases s with
  | positive => rfl
  | negative => exact (neg_mul p q).symm

end Binary64

namespace Decimal

/-- A quotient is rounded to the nearest whole number, a half going to the even one. -/
lemma roundDiv_toEven (num : ℕ) {den : ℕ} (h : 0 < den) :
    (roundDiv .toEven num den : ℤ) = nearestEven (num / den) := by
  have hden : (0 : ℚ) < den := Nat.cast_pos.mpr h
  have hfloor : ⌊(num / den : ℚ)⌋ = (num / den : ℕ) := Rat.floor_natCast_div_natCast num den
  have hfract : Int.fract (num / den : ℚ) = (num % den : ℕ) / den :=
    Int.fract_div_natCast_eq_div_natCast_mod
  have hbelow : ((num % den : ℕ) : ℚ) / den < 1 / 2 ↔ 2 * (num % den) < den := by
    rw [div_lt_div_iff₀ hden two_pos, mul_comm, one_mul]
    exact_mod_cast Iff.rfl
  have habove : 1 / 2 < ((num % den : ℕ) : ℚ) / den ↔ den < 2 * (num % den) := by
    rw [div_lt_div_iff₀ two_pos hden, mul_comm _ (2 : ℚ), one_mul]
    exact_mod_cast Iff.rfl
  rw [nearestEven, hfloor, hfract]
  simp only [roundDiv, hbelow, habove]
  split_ifs <;> push_cast <;> rfl

/-- A number in units of a power of ten is that number divided by it. -/
lemma inUnits_fst_div_snd (m : ℕ) (e k : ℤ) :
    ((Binary.inUnits ⟨m, e⟩ k).1 / (Binary.inUnits ⟨m, e⟩ k).2 : ℚ)
      = m * 2 ^ e * 10 ^ (-k) := by
  simp only [Binary.inUnits, Nat.pow_eq]
  push_cast
  rw [Binary.zpow_eq_div (by norm_num : (2 : ℚ) ≠ 0) e,
    Binary.zpow_eq_div (by norm_num : (10 : ℚ) ≠ 0) (-k), neg_neg]
  field_simp

/-- So a number is rounded to the nearest one that is a whole number of units. -/
lemma roundDiv_inUnits (m : ℕ) (e k : ℤ) :
    (roundDiv .toEven (Binary.inUnits ⟨m, e⟩ k).1 (Binary.inUnits ⟨m, e⟩ k).2 : ℤ)
      = nearestEven (m * 2 ^ e * 10 ^ (-k)) := by
  have hpos : 0 < (Binary.inUnits ⟨m, e⟩ k).2 :=
    Nat.mul_pos (Nat.pow_pos (by decide)) (Nat.pow_pos (by decide))
  rw [roundDiv_toEven _ hpos, inUnits_fst_div_snd]

end Decimal

/-! ### Places -/

/-- No units are written as zeros. -/
lemma Numeral.ofDecimal_zero (negative : Bool) (places : ℕ) :
    ofDecimal negative 0 places = ⟨negative, ['0'], List.replicate places '0'⟩ := by
  have hpadded : Decimal.padded (places + 1) 0 = ['0'] ++ List.replicate places '0' := by
    rw [Decimal.padded, Decimal.digits_of_lt (by decide)]
    exact List.replicate_succ'.symm
  have hlength : (['0'] ++ List.replicate places '0').length - places = ['0'].length := by simp
  rw [ofDecimal, hpadded, hlength, List.take_left, List.drop_left]

lemma Numeral.number_ofDecimal_zero (negative : Bool) (places : ℕ) :
    (ofDecimal negative 0 places).number = 0 := by
  rw [number_ofDecimal, Nat.cast_zero, zero_mul, Binary64.signed_zero]

lemma Numeral.number_ofDecimal_ne_zero (negative : Bool) {units : ℕ} (h : units ≠ 0)
    (places : ℕ) : (ofDecimal negative units places).number ≠ 0 := by
  rw [number_ofDecimal, ← abs_ne_zero, Binary64.abs_signed, abs_ne_zero]
  exact mul_ne_zero (Nat.cast_ne_zero.mpr h) (Decimal.ten_zpow_pos _).ne'

/-- With places behind the point, units are written as the numeral that has so many of them. -/
lemma signText_append_fixedUnits (hplaces : 0 < places) (t : Sign) (units : ℕ) :
    signText t ++ fixedUnits places units
      = (Numeral.ofDecimal (t == .negative) units places).render := by
  have hfraction : (Numeral.ofDecimal (t == .negative) units places).fraction ≠ [] := by
    refine List.ne_nil_of_length_pos ?_
    rwa [Numeral.length_fraction_ofDecimal]
  rw [Numeral.render, Numeral.unsigned, if_neg hfraction]
  cases t <;> rfl

/-- A finite number is shown as a decimal with the given number of places: the one nearest to it,
and of two equally near ones the one with an even number of units. -/
lemma exists_fixed_eq_render (hx : x.isFinite = true) (hplaces : 0 < places) :
    ∃ negative units, fixed places x = (Numeral.ofDecimal negative units places).render
      ∧ (Numeral.ofDecimal negative units places).number
        = nearestEven (value x * 10 ^ places) / 10 ^ places := by
  have hsign (t : Sign) : (if (t == .negative) = true then Sign.negative else .positive) = t := by
    cases t <;> rfl
  rcases Binary64.zero_or_digits hx with ⟨t, hu⟩ | ⟨t, m, e, hm, hu, -, -⟩
  · refine ⟨t == .negative, 0, ?_, ?_⟩
    · rw [← signText_append_fixedUnits hplaces, fixed, hu]
    · have hzero : nearestEven 0 = 0 := by exact_mod_cast Binary64.nearestEven_intCast 0
      rw [Numeral.number_ofDecimal_zero, Binary64.value_of_zero hu, zero_mul, hzero, Int.cast_zero,
        zero_div]
  · obtain ⟨q, hq⟩ : ∃ q, q = Binary.inUnits ⟨m, e⟩ (-(places : ℤ)) := ⟨_, rfl⟩
    have hunits := Decimal.roundDiv_inUnits m e (-(places : ℤ))
    rw [← hq, neg_neg, zpow_natCast] at hunits
    refine ⟨t == .negative, roundDiv .toEven q.1 q.2, ?_, ?_⟩
    · rw [← signText_append_fixedUnits hplaces, fixed, hu, hq]
    · rw [Numeral.number_ofDecimal, hsign, Binary64.value_of_finite hu, ← Binary64.signed_mul,
        Binary64.nearestEven_signed, ← hunits, Int.cast_natCast, zpow_neg, zpow_natCast,
        Binary64.signed_mul, div_eq_mul_inv]

/-- So it is the rounded number that is shown. -/
lemma writes_fixed (hx : x.isFinite = true) (hplaces : 0 < places) :
    Writes (fixed places x) (nearestEven (value x * 10 ^ places) / 10 ^ places) := by
  obtain ⟨negative, units, hrender, hnumber⟩ := exists_fixed_eq_render hx hplaces
  rw [hrender, ← hnumber]
  exact (Numeral.proper_ofDecimal _ _ _).writes

end Grading
