/-
The distance of two floating-point numbers, which is the same in both directions.

* `SameSize`, `sameSize_sub`: the differences in both directions are the same up to their signs;
* `SameSize.unpack_pack`: what is the same up to its sign is packed into the same up to its sign;
* `abs_sub_comm`: the distance is the same in both directions, be the numbers infinite or none.
-/
import Grading.Proofs.Decimal.Special

namespace Grading

namespace Binary64

open Float.Model (Format UnpackedFloat)
open Float.Model.UnpackedFloat (Accuracy Sign packComponents round roundWithAccuracy)

variable {spec : Format} {u v : UnpackedFloat}

/-- Whether unpacked numbers are the same up to their signs. -/
def SameSize (u v : UnpackedFloat) : Prop := u.abs = v.abs

/-! ### Rounding -/

lemma sameSize_roundWithAccuracy (spec : Format) (s t : Sign) (m : ℕ) (e : ℤ) (a : Accuracy) :
    SameSize (roundWithAccuracy spec s m e a) (roundWithAccuracy spec t m e a) := by
  rw [SameSize, roundWithAccuracy, roundWithAccuracy]
  dsimp only
  split <;> rfl

lemma sameSize_round (spec : Format) (s t : Sign) (m : ℕ) (e : ℤ) :
    SameSize (round spec s m e) (round spec t m e) :=
  sameSize_roundWithAccuracy spec s t _ _ .exact

/-- The opposite number is rounded to the opposite. -/
lemma sameSize_normalize_neg (spec : Format) (m e : ℤ) (s : Sign) :
    SameSize (UnpackedFloat.normalize spec (-m) e s) (UnpackedFloat.normalize spec m e s) := by
  rcases lt_trichotomy m 0 with hneg | rfl | hpos
  · rw [UnpackedFloat.normalize, UnpackedFloat.normalize,
      Int.compare_eq_gt.mpr (neg_pos.mpr hneg), Int.compare_eq_lt.mpr hneg]
    exact sameSize_round spec _ _ _ _
  · rw [neg_zero]
    rfl
  · rw [UnpackedFloat.normalize, UnpackedFloat.normalize,
      Int.compare_eq_lt.mpr (neg_neg_of_pos hpos), Int.compare_eq_gt.mpr hpos, neg_neg]
    exact sameSize_round spec _ _ _ _

/-! ### Differences -/

/-- The differences of two numbers in both directions are the same up to their signs. -/
lemma sameSize_sub (spec : Format) (u v : UnpackedFloat) :
    SameSize (u.sub spec v) (v.sub spec u) := by
  cases u with
  | notANumber => cases v <;> rfl
  | infinity s =>
      cases v with
      | infinity t => cases s <;> cases t <;> rfl
      | notANumber => rfl
      | zero t => rfl
      | finite t n k hn => rfl
  | zero s =>
      cases v with
      | zero t => cases s <;> cases t <;> rfl
      | notANumber => rfl
      | infinity t => rfl
      | finite t n k hn => rfl
  | finite s m e hm =>
      cases v with
      | notANumber => rfl
      | infinity t => rfl
      | zero t => rfl
      | finite t n k hn =>
          rw [UnpackedFloat.sub, UnpackedFloat.sub]
          dsimp only
          rw [min_comm k e, ← neg_sub]
          exact sameSize_normalize_neg spec _ _ _

/-! ### Packing -/

lemma sameSize_unpack_packComponents (s t : Sign) (e : BitVec 11) (m : BitVec 52) :
    SameSize (UnpackedFloat.unpack Format.binary64 (packComponents Format.binary64 s e m))
      (UnpackedFloat.unpack Format.binary64 (packComponents Format.binary64 t e m)) := by
  rw [SameSize, UnpackedFloat.unpack, UnpackedFloat.unpack]
  simp only [UnpackedFloat.unpackExponent_packComponents,
    UnpackedFloat.unpackMantissa_packComponents, UnpackedFloat.unpackSign_packComponents,
    Sign.ofBitVec_toBitVec]
  by_cases hinf : e = -1#11
  · rw [if_pos hinf, if_pos hinf]
    split_ifs <;> rfl
  · rw [if_neg hinf, if_neg hinf]
    split_ifs <;> rfl

/-- A number is packed into the same bits whatever its sign, but for the sign. -/
lemma sameSize_unpack_pack_abs (u : UnpackedFloat) :
    SameSize (Float.Model.pack u).unpack (Float.Model.pack u.abs).unpack := by
  cases u with
  | notANumber => rfl
  | infinity s => cases s <;> rfl
  | zero s => cases s <;> rfl
  | finite s m e hm =>
      change SameSize
        (UnpackedFloat.unpack Format.binary64
          (UnpackedFloat.pack Format.binary64 (.finite s m e hm)))
        (UnpackedFloat.unpack Format.binary64
          (UnpackedFloat.pack Format.binary64 (.finite .positive m e hm)))
      rw [UnpackedFloat.pack, UnpackedFloat.pack]
      dsimp only
      split
      · exact sameSize_unpack_packComponents _ _ _ _
      · split <;> exact sameSize_unpack_packComponents _ _ _ _

/-- What is the same up to its sign is packed into the same up to its sign. -/
lemma SameSize.unpack_pack (h : SameSize u v) :
    SameSize (Float.Model.pack u).unpack (Float.Model.pack v).unpack := by
  rw [SameSize] at h
  rw [SameSize, sameSize_unpack_pack_abs u, sameSize_unpack_pack_abs v, h]

/-- The distance of two numbers is the same in both directions. -/
lemma abs_sub_comm (x y : Float) : (x - y).abs = (y - x).abs := by
  have hsize := (sameSize_sub Format.binary64 x.toModel.unpack y.toModel.unpack).unpack_pack
  rw [SameSize] at hsize
  rw [Decimal.abs_sub_eq, Decimal.abs_sub_eq, hsize]

end Binary64

end Grading
