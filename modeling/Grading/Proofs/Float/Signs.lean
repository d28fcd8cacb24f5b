/-
The signs of floating-point numbers, which rounding leaves alone.

* `unpack_neg`, `unpack_abs`: a number with another sign has the same digits;
* `value_neg`, `value_abs`, `Rounds.neg`, `Rounds.abs`: it stands for the opposite number, or for
  the size of the number, and so it is rounded if the number was;
* `sub_eq_add`, `rounds_sub`: so differences are the exact ones, rounded, as sums are.
-/
import Grading.Proofs.Float.Operations

namespace Grading

namespace Binary64

open Float.Model (Format UnpackedFloat)
open Float.Model.UnpackedFloat (Sign)

variable {x y : Float} {q : ℚ}

/-! ### Other signs -/

/-- The number with the opposite sign. -/
lemma unpack_neg (x : Float) : (-x).toModel.unpack = x.toModel.unpack.neg := by
  change (Float.Model.pack x.toModel.unpack.neg).unpack = _
  cases hu : x.toModel.unpack with
  | notANumber => rfl
  | infinity s => exact Decimal.unpack_pack_infinity _
  | zero s => exact Decimal.unpack_pack_zero _
  | finite s m e hm =>
      obtain ⟨hdigits, he⟩ := digits_of_unpack hu
      exact (unpack_pack_finite hdigits hm).trans (if_pos he)

/-- The number without its sign. -/
lemma unpack_abs (x : Float) : x.abs.toModel.unpack = x.toModel.unpack.abs := by
  change (Float.Model.pack x.toModel.unpack.abs).unpack = _
  cases hu : x.toModel.unpack with
  | notANumber => rfl
  | infinity s => exact Decimal.unpack_pack_infinity _
  | zero s => exact Decimal.unpack_pack_zero _
  | finite s m e hm =>
      obtain ⟨hdigits, he⟩ := digits_of_unpack hu
      exact (unpack_pack_finite hdigits hm).trans (if_pos he)

lemma isFinite_neg (x : Float) : (-x).isFinite = x.isFinite := by
  change (-x).toModel.unpack.isFinite = x.toModel.unpack.isFinite
  rw [unpack_neg]
  cases x.toModel.unpack <;> rfl

lemma isFinite_abs (x : Float) : x.abs.isFinite = x.isFinite := by
  change x.abs.toModel.unpack.isFinite = x.toModel.unpack.isFinite
  rw [unpack_abs]
  cases x.toModel.unpack <;> rfl

lemma value_neg (x : Float) : value (-x) = -value x := by
  rw [value, value, unpack_neg]
  cases x.toModel.unpack with
  | finite s m e hm =>
      cases s with
      | negative => exact (neg_neg _).symm
      | positive => rfl
  | _ => exact neg_zero.symm

lemma value_abs (x : Float) : value x.abs = |value x| := by
  rw [value, value, unpack_abs]
  cases x.toModel.unpack with
  | finite s m e hm =>
      change (m : ℚ) * 2 ^ e = |signed s (m * 2 ^ e)|
      rw [abs_signed, abs_of_nonneg (size_nonneg m e)]
  | _ => exact abs_zero.symm

lemma Rounds.neg (h : Rounds x q) : Rounds (-x) (-q) where
  isFinite_iff := by rw [isFinite_neg, rounded_neg, abs_neg, h.isFinite_iff]
  value_eq hfinite := by
    rw [isFinite_neg] at hfinite
    rw [value_neg, rounded_neg, h.value_eq hfinite]

lemma Rounds.abs (h : Rounds x q) : Rounds x.abs |q| where
  isFinite_iff := by rw [isFinite_abs, h.isFinite_iff, abs_rounded, abs_rounded, abs_abs]
  value_eq hfinite := by
    rw [isFinite_abs] at hfinite
    rw [value_abs, h.value_eq hfinite, abs_rounded, rounded_of_nonneg (abs_nonneg q)]

/-! ### Differences -/

lemma apply_neg (s : Sign) (n : ℤ) : (-s).apply n = -s.apply n := by
  cases s with
  | negative => exact (neg_neg n).symm
  | positive => rfl

/-- A difference is a sum with the opposite number. -/
lemma sub_eq_add (x y : Float) : x - y = x + -y := by
  change Float.ofModel (Float.Model.pack
      (x.toModel.unpack.sub Format.binary64 y.toModel.unpack))
    = .ofModel (Float.Model.pack (x.toModel.unpack.add Format.binary64 (-y).toModel.unpack))
  rw [unpack_neg]
  generalize x.toModel.unpack = u
  generalize y.toModel.unpack = v
  congr 2
  cases u with
  | finite s m e hm =>
      cases v with
      | finite t n k hn =>
          rw [UnpackedFloat.neg, UnpackedFloat.sub, UnpackedFloat.add]
          dsimp only
          rw [apply_neg, Int.sub_eq_add_neg]
      | _ => rfl
  | _ => cases v <;> rfl

/-- The difference of finite numbers is the exact difference, rounded. -/
lemma rounds_sub (hx : x.isFinite = true) (hy : y.isFinite = true) :
    Rounds (x - y) (value x - value y) := by
  have hsum := rounds_add hx ((isFinite_neg y).trans hy)
  rwa [value_neg, ← Rat.sub_eq_add_neg, ← sub_eq_add] at hsum

end Binary64

end Grading
