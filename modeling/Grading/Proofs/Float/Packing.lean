/-
How floating-point numbers are kept in 64 bits.

* `unpack_pack_finite`: a rounded number is kept, unless it is too large and becomes infinite;
* `digits_of_unpack`: what is kept has the digits of a rounded number.
-/
import Grading.Proofs.Float.Rounding
import Mathlib

namespace Grading

namespace Binary64

open Float.Model (Format UnpackedFloat)
open Float.Model.UnpackedFloat (Sign packComponents unpackExponent unpackMantissa)

variable {s : Sign} {m : ℕ} {e : ℤ}

/-! ### Bits -/

/-- The leading digit is put in front of the others. -/
lemma toNat_one_append (m : BitVec 52) : (1#1 ++ m).toNat = 2 ^ 52 + m.toNat := by
  rw [BitVec.toNat_append, ← Nat.shiftLeft_add_eq_or_of_lt m.isLt]
  simp [Nat.shiftLeft_eq]

/-- Bits that stand for a number of full length. -/
lemma unpack_normal (s : Sign) {e : BitVec 11} (m : BitVec 52) (hinf : e ≠ -1#11)
    (hzero : e ≠ 0#11) :
    UnpackedFloat.unpack Format.binary64 (packComponents Format.binary64 s e m)
      = .finite s (2 ^ 52 + m.toNat) (e.toNat - 1075) (by omega) := by
  rw [UnpackedFloat.unpack]
  simp only [UnpackedFloat.unpackExponent_packComponents,
    UnpackedFloat.unpackMantissa_packComponents, UnpackedFloat.unpackSign_packComponents,
    Sign.ofBitVec_toBitVec, if_neg hinf, if_neg hzero, UnpackedFloat.finite.injEq,
    toNat_one_append]
  exact ⟨trivial, trivial, by simp [Format.exponentBias]⟩

/-- They do for one with a given exponent and a given mantissa. -/
lemma unpack_normal_ofNat (s : Sign) {k : ℕ} (hk : 0 < k) (hk' : k < 2047) (hm : 2 ^ 52 ≤ m)
    (hm' : m < 2 ^ 53) :
    UnpackedFloat.unpack Format.binary64
        (packComponents Format.binary64 s (BitVec.ofNat 11 k) (BitVec.ofNat 52 m))
      = .finite s m (k - 1075) (by omega) := by
  have hexponent : (BitVec.ofNat 11 k).toNat = k := by
    rw [BitVec.toNat_ofNat]
    omega
  have hmantissa : (BitVec.ofNat 52 m).toNat = m - 2 ^ 52 := by
    rw [BitVec.toNat_ofNat]
    omega
  have hinf : BitVec.ofNat 11 k ≠ -1#11 := by
    intro hbits
    have hnat : (BitVec.ofNat 11 k).toNat = 2047 := congrArg BitVec.toNat hbits
    omega
  have hzero : BitVec.ofNat 11 k ≠ 0#11 := by
    intro hbits
    have hnat : (BitVec.ofNat 11 k).toNat = 0 := congrArg BitVec.toNat hbits
    omega
  rw [unpack_normal s _ hinf hzero, UnpackedFloat.finite.injEq]
  exact ⟨rfl, by omega, by omega⟩

/-- Bits that stand for a number of the least unit. -/
lemma unpack_subnormal (s : Sign) {m : BitVec 52} (h : 0 < m.toNat) :
    UnpackedFloat.unpack Format.binary64 (packComponents Format.binary64 s 0#11 m)
      = .finite s m.toNat (-1074) h := by
  have hm : m ≠ 0#52 := fun hzero => by simp [hzero] at h
  rw [UnpackedFloat.unpack]
  simp only [UnpackedFloat.unpackExponent_packComponents,
    UnpackedFloat.unpackMantissa_packComponents, UnpackedFloat.unpackSign_packComponents,
    Sign.ofBitVec_toBitVec, if_neg (by decide : ¬(0#11 = -1#11)), if_pos, dif_neg hm,
    UnpackedFloat.finite.injEq]
  exact ⟨trivial, trivial, by simp [Format.exponentBias]⟩

/-! ### Packing -/

/-- A rounded number is kept, unless it is too large; then it becomes infinite. -/
lemma unpack_pack_finite (h : Digits m e) (hm : 0 < m) :
    (Float.Model.pack (.finite s m e hm)).unpack
      = if e < 972 then .finite s m e hm else .infinity s := by
  have hlow := h.le
  have hlt := h.lt
  have hbiased : (e + Format.binary64.exponentBias
      + Format.binary64.mantissaBitsWithoutImplicit).toNat = (e + 1075).toNat := by
    simp [Format.exponentBias]
    omega
  change UnpackedFloat.unpack Format.binary64
    (UnpackedFloat.pack Format.binary64 (.finite s m e hm)) = _
  rw [UnpackedFloat.pack]
  simp only [hbiased]
  by_cases hlarge : e < 972
  · rw [if_pos hlarge, if_neg (show ¬2 ^ 11 ≤ (e + 1075).toNat + 1 by omega)]
    by_cases hfull : 2 ^ 52 ≤ m
    · -- a normal number, whose leading digit is left out
      have hlog : m.log2 + 1 = Format.binary64.mantissaBits :=
        congrArg (· + 1) ((Nat.log2_eq_iff hm.ne').mpr ⟨hfull, hlt⟩)
      rw [if_pos hlog]
      refine (unpack_normal_ofNat s (by omega) (by omega) hfull hlt).trans ?_
      rw [UnpackedFloat.finite.injEq]
      exact ⟨rfl, rfl, by omega⟩
    · -- a subnormal number, which has the least exponent
      obtain rfl : e = -1074 := h.full.resolve_left hfull
      have hlog : m.log2 + 1 ≠ Format.binary64.mantissaBits := by
        have hbits : m.log2 < 52 := (Nat.log2_lt hm.ne').mpr (by omega)
        have hbits' : Format.binary64.mantissaBits = 53 := rfl
        omega
      have hmantissa : (BitVec.ofNat 52 m).toNat = m := by
        rw [BitVec.toNat_ofNat]
        omega
      rw [if_neg hlog, unpack_subnormal s (by omega), UnpackedFloat.finite.injEq]
      exact ⟨rfl, hmantissa, rfl⟩
  · rw [if_neg hlarge, if_pos (show 2 ^ 11 ≤ (e + 1075).toNat + 1 by omega)]
    cases s <;> rfl

/-- What is kept has the digits of a rounded number, and is not too large. -/
lemma digits_of_unpack {x : Float.Model} {hm : 0 < m} (h : x.unpack = .finite s m e hm) :
    Digits m e ∧ e < 972 := by
  have hbias : (Format.binary64.exponentBias : ℤ) + Format.binary64.mantissaBitsWithoutImplicit
      = 1075 := by
    simp [Format.exponentBias]
  have hfraction : (@unpackMantissa Format.binary64 x.toBits.toBitVec).toNat < 2 ^ 52 :=
    BitVec.isLt _
  have hlt : (@unpackExponent Format.binary64 x.toBits.toBitVec).toNat < 2 ^ 11 := BitVec.isLt _
  rw [Float.Model.unpack, UnpackedFloat.unpack] at h
  simp only [hbias] at h
  split at h
  case isTrue => split at h <;> cases h
  case isFalse hinf =>
    split at h
    case isTrue hzero =>
      split at h
      case isTrue => cases h
      case isFalse =>
        obtain ⟨-, rfl, rfl⟩ := (UnpackedFloat.finite.injEq ..).mp h
        rw [hzero]
        exact ⟨⟨hfraction.trans (by decide), by decide, Or.inr (by decide)⟩, by decide⟩
    case isFalse hzero =>
      obtain ⟨-, rfl, rfl⟩ := (UnpackedFloat.finite.injEq ..).mp h
      have hlow : (@unpackExponent Format.binary64 x.toBits.toBitVec).toNat ≠ 0 :=
        fun h => hzero (BitVec.eq_of_toNat_eq h)
      have hhigh : (@unpackExponent Format.binary64 x.toBits.toBitVec).toNat ≠ 2047 :=
        fun h => hinf (BitVec.eq_of_toNat_eq h)
      rw [toNat_one_append]
      exact ⟨⟨by omega, by omega, Or.inl (by omega)⟩, by omega⟩

end Binary64

end Grading
