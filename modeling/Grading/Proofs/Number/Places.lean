/-
Which quotients are shown as decimals.

* `exists_unsigned_pointAt`, `isNumeral_render_plain`: a finite number is written as a signed
  decimal, and what is not finite is written as a word;
* `isFinite_roundToWhole`: rounding to a whole number keeps whether a number is finite;
* `isNumeral_twoPlaces`: so a quotient is shown as a decimal exactly if it is finite in hundredths;
* `all_isNumberChar_twoPlaces`: the characters that it is shown with.
-/
import Grading.Proofs.Float.Nearest

namespace Grading

open Decimal (isDigits isDigits_iff pointAt plain roundDiv Binary)
open Binary64 (Rounds limit rounded roundedSize value signed)

variable {ds s : Text} {x y : Float} {m : ℕ} {e : ℤ}

/-! ### Positional notation -/

lemma isDigits_zeros_append (n : ℕ) (h : isDigits ds = true) :
    isDigits (List.replicate n '0' ++ ds) = true := by
  obtain ⟨hne, hdigits⟩ := isDigits_iff.mp h
  refine isDigits_iff.mpr ⟨List.append_ne_nil_of_right_ne_nil _ hne, fun c hc => ?_⟩
  exact (List.mem_append.mp hc).elim Decimal.isDigit_of_mem_zeros (hdigits c)

lemma isDigits_append_zeros (n : ℕ) (h : isDigits ds = true) :
    isDigits (ds ++ List.replicate n '0') = true := by
  obtain ⟨hne, hdigits⟩ := isDigits_iff.mp h
  refine isDigits_iff.mpr ⟨List.append_ne_nil_of_left_ne_nil hne _, fun c hc => ?_⟩
  exact (List.mem_append.mp hc).elim (hdigits c) Decimal.isDigit_of_mem_zeros

/-- Digits with a point somewhere are a numeral: where the point lies beyond them, zeros fill the
places between. -/
lemma exists_unsigned_pointAt (negative : Bool) (hds : isDigits ds = true) (k : ℤ) :
    ∃ n : Numeral, n.negative = negative ∧ n.Proper ∧ n.unsigned = pointAt false ds k := by
  obtain ⟨hne, hdigits⟩ := isDigits_iff.mp hds
  rw [pointAt, if_neg Bool.false_ne_true, List.append_nil]
  split_ifs with hfront hback
  · have hfraction := isDigits_zeros_append (-k).toNat hds
    refine ⟨⟨negative, ['0'], List.replicate (-k).toNat '0' ++ ds⟩, rfl,
      ⟨rfl, Or.inr hfraction⟩, ?_⟩
    rw [Numeral.unsigned, if_neg (isDigits_iff.mp hfraction).1]
    rfl
  · refine ⟨⟨negative, ds ++ List.replicate (k.toNat - ds.length) '0', []⟩, rfl,
      ⟨isDigits_append_zeros _ hds, Or.inl rfl⟩, if_pos rfl⟩
  · have hwhole : isDigits (ds.take k.toNat) = true := by
      refine isDigits_iff.mpr ⟨List.ne_nil_of_length_pos ?_, fun c hc => ?_⟩
      · rw [List.length_take]
        omega
      · exact hdigits c (List.mem_of_mem_take hc)
    have hfraction : isDigits (ds.drop k.toNat) = true := by
      refine isDigits_iff.mpr ⟨List.ne_nil_of_length_pos ?_, fun c hc => ?_⟩
      · rw [List.length_drop]
        omega
      · exact hdigits c (List.mem_of_mem_drop hc)
    exact ⟨⟨negative, ds.take k.toNat, ds.drop k.toNat⟩, rfl, ⟨hwhole, Or.inr hfraction⟩,
      if_neg (isDigits_iff.mp hfraction).1⟩

lemma isNumeral_of_proper {n : Numeral} (h : n.Proper) : isNumeral n.render = true := by
  rw [isNumeral, Numeral.ofText?_eq_some_iff.mpr ⟨h, rfl⟩]
  rfl

/-- Without an exponent, digits are written with a point somewhere. -/
lemma layout_plain (d : Decimal) :
    plain.layout d = pointAt false (Decimal.digits d.coefficient)
      ((Decimal.digits d.coefficient).length + d.exponent) := by
  rw [Decimal.Notation.layout]
  exact if_pos rfl

/-- A decimal with a sign is a signed decimal. -/
lemma isNumeral_layout (sign : Float.Model.UnpackedFloat.Sign) (d : Decimal) :
    isNumeral (Decimal.signText sign ++ plain.layout d) = true := by
  have hds : isDigits (Decimal.digits d.coefficient) = true :=
    isDigits_iff.mpr ⟨Decimal.digits_ne_nil _, fun c => Decimal.isDigit_of_mem_digits⟩
  obtain ⟨n, hnegative, hn, hunsigned⟩ := exists_unsigned_pointAt (sign == .negative) hds
    ((Decimal.digits d.coefficient).length + d.exponent)
  have hrender : Decimal.signText sign ++ plain.layout d = n.render := by
    rw [Numeral.render, hnegative, hunsigned, layout_plain]
    cases sign <;> rfl
  rw [hrender, isNumeral_of_proper hn]

/-- A finite number is written as a signed decimal, and nothing else is. -/
lemma isNumeral_render_plain (x : Float) : isNumeral (plain.render x) = x.isFinite := by
  change _ = x.toModel.unpack.isFinite
  rw [Decimal.Notation.render]
  cases x.toModel.unpack with
  | notANumber => decide
  | infinity sign => cases sign <;> decide
  | zero sign => cases sign <;> decide
  | finite sign m e hm => exact isNumeral_layout sign _

/-! ### Whole numbers -/

/-- A number of 53 digits is rounded to a whole number of no more digits, or to one that is not
larger. -/
lemma roundDiv_inUnits_le (tie : Decimal.Tie) (hm : 0 < m) (e : ℤ) :
    roundDiv tie (Binary.inUnits ⟨m, e⟩ 0).1 (Binary.inUnits ⟨m, e⟩ 0).2 ≤ m
      ∨ (roundDiv tie (Binary.inUnits ⟨m, e⟩ 0).1 (Binary.inUnits ⟨m, e⟩ 0).2 : ℚ) ≤ m * 2 ^ e := by
  simp only [Binary.inUnits, Nat.pow_eq, neg_zero, Int.toNat_zero, pow_zero, mul_one]
  rcases le_or_gt 0 e with hnonneg | hneg
  · have hexponent : (-e).toNat = 0 := by omega
    have hnear := (Decimal.near_roundDiv tie (m * 2 ^ e.toNat) Nat.one_pos).1
    have hle : roundDiv tie (m * 2 ^ e.toNat) 1 ≤ m * 2 ^ e.toNat := by omega
    have hpower : (2 : ℚ) ^ e = 2 ^ e.toNat := by
      rw [← zpow_natCast, Int.toNat_of_nonneg hnonneg]
    rw [hexponent, pow_zero, hpower]
    exact Or.inr (by exact_mod_cast hle)
  · have hexponent : e.toNat = 0 := by omega
    have hden : 2 ^ 1 ≤ 2 ^ (-e).toNat := Nat.pow_le_pow_right Nat.two_pos (by omega)
    rw [hexponent, pow_zero, mul_one]
    have hnear := (Decimal.near_roundDiv tie m (Nat.two_pow_pos (-e).toNat)).1
    refine Or.inl ?_
    nlinarith

/-- Rounding to a whole number keeps whether a number is finite. -/
lemma isFinite_roundToWhole (x : Float) : (roundToWhole x).isFinite = x.isFinite := by
  rw [roundToWhole]
  split
  case h_1 sign m e hm hu =>
    obtain ⟨hdigits, he⟩ := Binary64.digits_of_unpack hu
    have hx : x.isFinite = true := by
      change x.toModel.unpack.isFinite = true
      rw [hu]
      rfl
    rw [hx]
    refine (Binary64.rounds_nearest (sign == .negative) _ 0).isFinite_iff.mpr ?_
    rw [Binary64.abs_rounded, Binary64.abs_signed, zpow_zero, mul_one, Nat.abs_cast]
    -- either the whole number has no more digits than a mantissa, or it is at most the number
    rcases roundDiv_inUnits_le .awayFromZero hm e with hle | hle
    · have hlt := hle.trans_lt hdigits.lt
      rw [← Binary64.rounded_of_nonneg (Nat.cast_nonneg _), Binary64.rounded_natCast hlt]
      have hfits : ((2 : ℚ) ^ (53 : ℤ)) ≤ limit := Binary64.two_zpow_le (by decide)
      exact lt_of_lt_of_le (by exact_mod_cast hlt) hfits
    · calc roundedSize _ ≤ roundedSize (m * 2 ^ e) :=
          Binary64.roundedSize_mono (Nat.cast_nonneg _) hle
        _ = m * 2 ^ e := hdigits.roundedSize_eq
        _ < limit := hdigits.lt_limit_iff.mpr he
  case h_2 => rfl

/-! ### Hundredths -/

/-- Dividing by a number of at least one keeps whether a number is finite. -/
lemma isFinite_div (x : Float) (hy : y.isFinite = true) (hone : 1 ≤ value y) :
    (x / y).isFinite = x.isFinite := by
  have hpos : 0 < value y := one_pos.trans_le hone
  cases hx : x.isFinite with
  | true =>
      -- a quotient by one or more is no larger than the number
      have hself := Binary64.rounds_value hx
      refine (Binary64.rounds_div hx hy hpos.ne').isFinite_iff.mpr
        ((Binary64.abs_rounded_le ?_).trans_lt (hself.isFinite_iff.mp hx))
      rw [abs_div, abs_of_pos hpos]
      exact div_le_self (abs_nonneg _) hone
  | false =>
      change (Float.Model.pack
        (x.toModel.unpack.div _ y.toModel.unpack)).unpack.isFinite = false
      change x.toModel.unpack.isFinite = false at hx
      rcases Binary64.zero_or_digits hy with ⟨t, hv⟩ | ⟨t, n, k, hn, hv, -, -⟩
      · rw [Binary64.value_of_zero hv] at hpos
        exact absurd hpos (lt_irrefl 0)
      · rw [hv]
        cases hu : x.toModel.unpack with
        | notANumber =>
            rw [Float.Model.UnpackedFloat.div]
            rfl
        | infinity s =>
            rw [Float.Model.UnpackedFloat.div, Decimal.unpack_pack_infinity]
            rfl
        | zero s => rw [hu] at hx; cases hx
        | finite s m e hm => rw [hu] at hx; cases hx

/-- A quotient is shown as a signed decimal exactly if it is finite in hundredths. -/
lemma isNumeral_twoPlaces (x : Float) : isNumeral (twoPlaces x) = (x * 100).isFinite := by
  have hhundred : 1 ≤ value 100 := by decide +kernel
  have hrounded : (roundToWhole (x * 100) / 100).isFinite = (x * 100).isFinite := by
    rw [isFinite_div _ (by decide) hhundred, isFinite_roundToWhole]
  simp only [twoPlaces]
  rw [isNumeral_render_plain, ← hrounded]
  split
  case isTrue hzero => rw [Decimal.isFinite_of_beq_zero hzero]; rfl
  case isFalse => rfl

/-- Be it finite or not, it is shown with the characters of numbers. -/
lemma all_isNumberChar_twoPlaces (x : Float) : (twoPlaces x).all Decimal.isNumberChar = true :=
  Decimal.all_isNumberChar_render plain _

end Grading
