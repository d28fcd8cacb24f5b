/-
How floating-point numbers are compared.

* `Digits.compare_eq`: numbers in digits are compared by their units first;
* `compare_eq`, `lt_iff_value_lt`, `beq_iff_value_eq`: finite numbers are compared by what they
  stand for;
* `isFinite_of_lt_of_lt`, `isFinite_of_le_of_le`: what lies between two numbers is finite;
* `isFinite_or_infinity_of_pos`, `not_infinity_mul_lt`: a positive number may be infinite, and a
  product with that does not fall when the other factor grows.
-/
import Grading.Proofs.Float.Operations

namespace Grading

namespace Binary64

open Float.Model (UnpackedFloat)

variable {m n : ℕ} {e k : ℤ} {x y : Float}

/-- The larger unit belongs to the larger number. -/
lemma Digits.lt_of_exponent_lt (h : Digits m e) (h' : Digits n k) (hlt : e < k) :
    (m : ℚ) * 2 ^ e < n * 2 ^ k := by
  have hlow := h.le
  have hfull : 2 ^ 52 ≤ n := h'.full.resolve_right (by omega)
  have hm : (m : ℚ) < 2 ^ (53 : ℤ) := by exact_mod_cast h.lt
  calc (m : ℚ) * 2 ^ e < 2 ^ (53 : ℤ) * 2 ^ e := mul_lt_mul_of_pos_right hm (two_zpow_pos e)
    _ = 2 ^ (53 + e) := two_zpow_mul 53 e
    _ ≤ 2 ^ (52 + k) := two_zpow_le (by omega)
    _ = 2 ^ (52 : ℤ) * 2 ^ k := (two_zpow_mul 52 k).symm
    _ ≤ n * 2 ^ k := mul_le_mul_of_nonneg_right (by exact_mod_cast hfull) (two_zpow_pos k).le

/-- Numbers in digits are compared by their units first. -/
lemma Digits.compare_eq (h : Digits m e) (h' : Digits n k) :
    (compare e k).then (compare m n) = compare ((m : ℚ) * 2 ^ e) (n * 2 ^ k) := by
  rcases lt_trichotomy e k with hlt | rfl | hgt
  · rw [compare_lt_iff_lt.mpr hlt, compare_lt_iff_lt.mpr (h.lt_of_exponent_lt h' hlt)]
    rfl
  · rw [compare_eq_iff_eq.mpr rfl, Ordering.eq_then]
    rcases lt_trichotomy m n with hlt | rfl | hgt
    · have hsize : (m : ℚ) * 2 ^ e < n * 2 ^ e :=
        mul_lt_mul_of_pos_right (by exact_mod_cast hlt) (two_zpow_pos e)
      rw [compare_lt_iff_lt.mpr hlt, compare_lt_iff_lt.mpr hsize]
    · rw [compare_eq_iff_eq.mpr rfl, compare_eq_iff_eq.mpr rfl]
    · have hsize : (n : ℚ) * 2 ^ e < m * 2 ^ e :=
        mul_lt_mul_of_pos_right (by exact_mod_cast hgt) (two_zpow_pos e)
      rw [compare_gt_iff_gt.mpr hgt, compare_gt_iff_gt.mpr hsize]
  · rw [compare_gt_iff_gt.mpr hgt, compare_gt_iff_gt.mpr (h'.lt_of_exponent_lt h hgt)]
    rfl

lemma size_pos (hm : 0 < m) (e : ℤ) : (0 : ℚ) < m * 2 ^ e :=
  mul_pos (by exact_mod_cast hm) (two_zpow_pos e)

lemma compare_neg_neg (p q : ℚ) : compare (-p) (-q) = (compare p q).swap := by
  rcases lt_trichotomy p q with hlt | rfl | hgt
  · rw [compare_lt_iff_lt.mpr hlt, compare_gt_iff_gt.mpr (neg_lt_neg hlt)]
    rfl
  · rw [compare_eq_iff_eq.mpr rfl, compare_eq_iff_eq.mpr rfl]
    rfl
  · rw [compare_gt_iff_gt.mpr hgt, compare_lt_iff_lt.mpr (neg_lt_neg hgt)]
    rfl

/-- Finite numbers are compared by what they stand for. -/
lemma compare_eq (hx : x.isFinite = true) (hy : y.isFinite = true) :
    x.toModel.unpack.compare y.toModel.unpack = some (compare (value x) (value y)) := by
  rcases zero_or_digits hx with ⟨s, hu⟩ | ⟨s, m, e, hm, hu, hdigits, -⟩ <;>
    rcases zero_or_digits hy with ⟨t, hv⟩ | ⟨t, n, k, hn, hv, hdigits', -⟩
  · rw [hu, hv, value_of_zero hu, value_of_zero hv, compare_eq_iff_eq.mpr rfl]
    rfl
  · have hy' := size_pos hn k
    rw [hu, hv, value_of_zero hu, value_of_finite hv]
    cases t with
    | negative => rw [signed, compare_gt_iff_gt.mpr (neg_neg_of_pos hy')]; rfl
    | positive => rw [signed, compare_lt_iff_lt.mpr hy']; rfl
  · have hx' := size_pos hm e
    rw [hu, hv, value_of_finite hu, value_of_zero hv]
    cases s with
    | negative => rw [signed, compare_lt_iff_lt.mpr (neg_neg_of_pos hx')]; rfl
    | positive => rw [signed, compare_gt_iff_gt.mpr hx']; rfl
  · have hx' := size_pos hm e
    have hy' := size_pos hn k
    rw [hu, hv, value_of_finite hu, value_of_finite hv]
    cases s <;> cases t
    · rw [signed, signed, compare_neg_neg, ← hdigits.compare_eq hdigits']; rfl
    · rw [signed, signed, compare_lt_iff_lt.mpr ((neg_neg_of_pos hx').trans hy')]; rfl
    · rw [signed, signed, compare_gt_iff_gt.mpr ((neg_neg_of_pos hy').trans hx')]; rfl
    · rw [signed, signed, ← hdigits.compare_eq hdigits']; rfl

/-- When a number is less than another. -/
lemma lt_iff_compare (x y : Float) :
    x < y ↔ x.toModel.unpack.compare y.toModel.unpack = some .lt := by
  change decide (x.toModel < y.toModel) = true ↔ _
  rw [decide_eq_true_iff]
  change (x.toModel.unpack.compare y.toModel.unpack == some .lt) = true ↔ _
  rw [beq_iff_eq]

lemma lt_iff_value_lt (hx : x.isFinite = true) (hy : y.isFinite = true) :
    x < y ↔ value x < value y := by
  rw [lt_iff_compare, compare_eq hx hy, Option.some.injEq, compare_lt_iff_lt]

/-- When a number is not greater than another. -/
lemma le_iff_compare (x y : Float) :
    x ≤ y ↔ (x.toModel.unpack.compare y.toModel.unpack).any Ordering.isLE = true := by
  change decide (x.toModel ≤ y.toModel) = true ↔ _
  rw [decide_eq_true_iff]
  rfl

lemma le_iff_value_le (hx : x.isFinite = true) (hy : y.isFinite = true) :
    x ≤ y ↔ value x ≤ value y := by
  rw [le_iff_compare, compare_eq hx hy, Option.any_some, ← Ordering.ne_gt_iff_isLE]
  exact compare_le_iff_le

/-- When a number is equal to another: a zero is to one with the other sign. -/
lemma beq_iff_value_eq (hx : x.isFinite = true) (hy : y.isFinite = true) :
    (x == y) = true ↔ value x = value y := by
  change (x.toModel.unpack.compare y.toModel.unpack == some .eq) = true ↔ _
  rw [beq_iff_eq, compare_eq hx hy, Option.some_inj, compare_eq_iff_eq]

/-- What is no number is not compared. -/
lemma not_le_of_isNaN (hx : x.isNaN = true) : ¬ y ≤ x := by
  rw [le_iff_compare, Decimal.unpack_eq_notANumber hx]
  cases y.toModel.unpack <;> exact Bool.false_ne_true

/-- What lies between two numbers is finite. -/
lemma isFinite_of_lt_of_lt {a b : Float} (ha : a < x) (hb : x < b) : x.isFinite = true := by
  rw [lt_iff_compare] at ha hb
  generalize a.toModel.unpack = u at ha
  generalize b.toModel.unpack = v at hb
  change x.toModel.unpack.isFinite = true
  cases hu : x.toModel.unpack with
  | zero s => rfl
  | finite s m e hm => rfl
  | notANumber =>
      rw [hu] at hb
      cases hb
  | infinity s =>
      rw [hu] at ha hb
      cases s with
      | negative => rcases u with (_ | _) | _ | _ | (_ | _) <;> cases ha
      | positive => rcases v with (_ | _) | _ | _ | (_ | _) <;> cases hb

/-- What is between finite numbers, or one of them, is finite. -/
lemma isFinite_of_le_of_le {a b : Float} (ha : a.isFinite = true) (hb : b.isFinite = true)
    (hax : a ≤ x) (hxb : x ≤ b) : x.isFinite = true := by
  rw [le_iff_compare] at hax hxb
  change a.toModel.unpack.isFinite = true at ha
  change b.toModel.unpack.isFinite = true at hb
  generalize a.toModel.unpack = u at ha hax
  generalize b.toModel.unpack = v at hb hxb
  change x.toModel.unpack.isFinite = true
  cases hx : x.toModel.unpack with
  | zero s => rfl
  | finite s m e hm => rfl
  | notANumber =>
      rw [hx] at hxb
      cases hxb
  | infinity s =>
      -- no finite number lies beyond an infinite one
      rw [hx] at hax hxb
      cases s with
      | negative =>
          rcases u with (_ | _) | _ | _ | (_ | _) <;>
            first | exact absurd hax Bool.false_ne_true | cases ha
      | positive =>
          rcases v with (_ | _) | _ | _ | (_ | _) <;>
            first | exact absurd hxb Bool.false_ne_true | cases hb

/-! ### Products with a positive number -/

variable {v : Float}

/-- A positive number is finite, or the positive infinity. -/
lemma isFinite_or_infinity_of_pos (hv : 0 < v) :
    v.isFinite = true ∨ v.toModel.unpack = .infinity .positive := by
  rw [lt_iff_compare] at hv
  change v.toModel.unpack.isFinite = true ∨ _
  generalize v.toModel.unpack = u at hv ⊢
  rcases u with (_ | _) | _ | _ | _ <;> first | exact Or.inl rfl | exact Or.inr rfl | cases hv

/-- The product with the positive infinity is infinite with the sign of the other factor, and no
number at all if that is zero. -/
lemma unpack_infinity_mul (hv : v.toModel.unpack = .infinity .positive) (hx : x.isFinite = true) :
    (v * x).toModel.unpack
      = if value x < 0 then .infinity .negative else if 0 < value x then .infinity .positive
        else .notANumber := by
  change (Float.Model.pack (v.toModel.unpack.mul _ x.toModel.unpack)).unpack = _
  rw [hv]
  rcases zero_or_digits hx with ⟨s, hu⟩ | ⟨s, m, e, hm, hu, -, -⟩
  · rw [hu, value_of_zero hu, if_neg (lt_irrefl 0), if_neg (lt_irrefl 0), UnpackedFloat.mul]
    rfl
  · have hsize := size_pos hm e
    rw [hu, value_of_finite hu, UnpackedFloat.mul, Decimal.unpack_pack_infinity]
    cases s with
    | negative => rw [signed, if_pos (neg_neg_of_pos hsize)]; rfl
    | positive => rw [signed, if_neg hsize.not_gt, if_pos hsize]; rfl

/-- A product with the positive infinity does not fall when the other factor grows. -/
lemma not_infinity_mul_lt (hv : v.toModel.unpack = .infinity .positive) (hx : x.isFinite = true)
    (hy : y.isFinite = true) (h : value x ≤ value y) : ¬ v * y < v * x := by
  rw [lt_iff_compare, unpack_infinity_mul hv hx, unpack_infinity_mul hv hy]
  split_ifs <;> first | linarith | (intro h; cases h)

end Binary64

end Grading
