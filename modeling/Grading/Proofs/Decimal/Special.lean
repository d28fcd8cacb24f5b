/-
Floating-point numbers that are not finite, and how they come about.

* `isNaN_unpack_pack`: packing a number keeps whether it is one;
* `isNaN_add_of_isFinite`: so does adding a finite number;
* `isNaN_div_iff`: a quotient of numbers by what is not zero is none exactly if both are infinite;
* `isNaN_div_of_not_isFinite`, `exists_unpack_div_eq_zero`: what is not finite has no quotient by
  what is not, and a finite number divided by an infinite one is a zero;
* `abs_sub_self_of_isFinite`, `isNaN_abs_sub_of_beq`, `abs_sub_eq_infinity`: the distance of a
  number from itself is zero, that of an infinite one from itself is no number, and its distance
  from another number is infinite;
* `abs_sub_congr`: equal numbers are at the same distance from any other, be they zeros with
  different signs;
* `isNaN_readNumber?`, `readNumber?_powerOfTen`: what a text writes is a number, and the number of
  hundreds of digits is infinite;
* `twoPlaces_of_isNaN`, `mem_twoPlaces`: how a quotient is written, if it is no number and if it is.
-/
import Grading.Number.Numeral
import Grading.Number.Places
import Grading.Proofs.Decimal.Whole
import Mathlib

namespace Grading

namespace Decimal

open Float.Model (Format)
open Float.Model.UnpackedFloat (Sign Accuracy packComponents roundWithAccuracy)

variable {x y : Float}

/-! ### Packing -/

section Packing

variable {spec : Format} {u v : Float.Model.UnpackedFloat}

lemma unpack_pack_infinity (s : Sign) : (Float.Model.pack (.infinity s)).unpack = .infinity s := by
  cases s <;> rfl

lemma unpack_pack_zero (s : Sign) : (Float.Model.pack (.zero s)).unpack = .zero s := by
  cases s <;> rfl

/-- Bits whose exponent is not the greatest stand for a number. -/
lemma isNaN_unpack_packComponents (s : Sign) {e : BitVec 11} (m : BitVec 52) (he : e ≠ -1#11) :
    (Float.Model.UnpackedFloat.unpack Format.binary64
      (packComponents Format.binary64 s e m)).isNaN = false := by
  rw [Float.Model.UnpackedFloat.unpack]
  simp only [Float.Model.UnpackedFloat.unpackExponent_packComponents,
    Float.Model.UnpackedFloat.unpackMantissa_packComponents, if_neg he]
  split
  · split <;> rfl
  · rfl

/-- Packing keeps whether something is a number: one that is too large becomes infinite. -/
lemma isNaN_unpack_pack (u : Float.Model.UnpackedFloat) :
    (Float.Model.pack u).unpack.isNaN = u.isNaN := by
  cases u with
  | infinity s => rw [unpack_pack_infinity]
  | notANumber => rfl
  | zero s => rw [unpack_pack_zero]
  | finite s m e hm =>
      change (Float.Model.UnpackedFloat.unpack Format.binary64
        (Float.Model.UnpackedFloat.pack Format.binary64 (.finite s m e hm))).isNaN = false
      rw [Float.Model.UnpackedFloat.pack]
      generalize (e + Format.binary64.exponentBias
        + Format.binary64.mantissaBitsWithoutImplicit).toNat = biased
      split
      case isTrue => cases s <;> rfl
      case isFalse hfits =>
        replace hfits : biased + 1 < 2048 := Nat.lt_of_not_le hfits
        split
        case isTrue =>
          refine isNaN_unpack_packComponents s _ fun h => ?_
          have hbits : biased % 2048 = 2047 := congrArg BitVec.toNat h
          omega
        case isFalse => exact isNaN_unpack_packComponents s _ (by decide)

lemma isNaN_roundWithAccuracy (s : Sign) (m : Nat) (e : Int) (a : Accuracy) :
    (roundWithAccuracy spec s m e a).isNaN = false := by
  simp only [roundWithAccuracy]
  split <;> rfl

lemma isNaN_normalize (n e : Int) (s : Sign) :
    (Float.Model.UnpackedFloat.normalize spec n e s).isNaN = false := by
  rw [Float.Model.UnpackedFloat.normalize]
  split
  · exact isNaN_roundWithAccuracy _ _ _ _
  · rfl
  · exact isNaN_roundWithAccuracy _ _ _ _

lemma isNaN_add_finite (hv : v.isFinite = true) : (u.add spec v).isNaN = u.isNaN := by
  cases v with
  | infinity s => cases hv
  | notANumber => cases hv
  | zero s =>
      cases u with
      | zero t => cases s <;> cases t <;> rfl
      | _ => rfl
  | finite s m e hm =>
      cases u with
      | finite t n f hn => exact isNaN_normalize _ _ _
      | _ => rfl

lemma isNaN_div_infinite (hu : u.isFinite = false) (hv : v.isFinite = false) :
    (u.div spec v).isNaN = true := by
  cases u with
  | zero s => cases hu
  | finite s m e hm => cases hu
  | notANumber => rfl
  | infinity s =>
      cases v with
      | zero t => cases hv
      | finite t n f hn => cases hv
      | notANumber => rfl
      | infinity t => rfl

/-- Dividing a number by one that is not zero fails exactly if both are infinite. -/
lemma isNaN_div_of_ne_zero (hu : u.isNaN = false) (hv : v.isNaN = false)
    (hzero : ∀ s, v ≠ .zero s) : (u.div spec v).isNaN = (u.isInf && v.isInf) := by
  cases v with
  | notANumber => cases hv
  | zero s => exact absurd rfl (hzero s)
  | infinity s => cases u <;> first | rfl | cases hu
  | finite s m e hm =>
      cases u with
      | notANumber => cases hu
      | infinity t => rfl
      | zero t => rfl
      | finite t n f hn => exact isNaN_roundWithAccuracy _ _ _ _

lemma isNaN_div_finite (s : Sign) (m : Nat) (e : Int) (hm : 0 < m) :
    (u.div spec (.finite s m e hm)).isNaN = u.isNaN := by
  cases u with
  | finite t n f hn => exact isNaN_roundWithAccuracy _ _ _ _
  | infinity t => rfl
  | notANumber => rfl
  | zero t => rfl

lemma isNaN_mul_finite (s : Sign) (m : Nat) (e : Int) (hm : 0 < m) :
    (u.mul spec (.finite s m e hm)).isNaN = u.isNaN := by
  cases u with
  | finite t n f hn => exact isNaN_roundWithAccuracy _ _ _ _
  | infinity t => rfl
  | notANumber => rfl
  | zero t => rfl

end Packing

/-! ### Kinds of numbers -/

lemma unpack_eq_notANumber (h : x.isNaN = true) : x.toModel.unpack = .notANumber :=
  Float.Model.UnpackedFloat.isNaN_iff.mp h

lemma exists_unpack_eq_infinity (h : x.isInf = true) : ∃ s, x.toModel.unpack = .infinity s := by
  change x.toModel.unpack.isInf = true at h
  cases hu : x.toModel.unpack with
  | infinity s => exact ⟨s, rfl⟩
  | notANumber => rw [hu] at h; cases h
  | zero s => rw [hu] at h; cases h
  | finite s m e hm => rw [hu] at h; cases h

lemma isFinite_of_isNaN_isInf (hnan : x.isNaN = false) (hinf : x.isInf = false) :
    x.isFinite = true := by
  change x.toModel.unpack.isNaN = false at hnan
  change x.toModel.unpack.isInf = false at hinf
  change x.toModel.unpack.isFinite = true
  cases hu : x.toModel.unpack with
  | infinity s => rw [hu] at hinf; cases hinf
  | notANumber => rw [hu] at hnan; cases hnan
  | zero s => rfl
  | finite s m e hm => rfl

/-! ### Products and quotients -/

lemma isNaN_neg (x : Float) : (-x).isNaN = x.isNaN := by
  change (Float.Model.pack x.toModel.unpack.neg).unpack.isNaN = x.toModel.unpack.isNaN
  rw [isNaN_unpack_pack]
  cases x.toModel.unpack <;> rfl

/-- A zero is equal to zero. -/
lemma unpack_ne_zero (h : (x == 0) = false) (s : Sign) : x.toModel.unpack ≠ .zero s := by
  intro hzero
  have hbeq : (x == 0) = x.toModel.unpack.beq (.zero .positive) := rfl
  rw [hbeq, hzero] at h
  cases s <;> cases h

lemma exists_unpack_eq_finite (hx : x.isFinite = true) (hzero : (x == 0) = false) :
    ∃ s m e hm, x.toModel.unpack = .finite s m e hm := by
  change x.toModel.unpack.isFinite = true at hx
  cases hu : x.toModel.unpack with
  | finite s m e hm => exact ⟨s, m, e, hm, rfl⟩
  | zero s => exact absurd hu (unpack_ne_zero hzero s)
  | infinity s => rw [hu] at hx; cases hx
  | notANumber => rw [hu] at hx; cases hx

/-- The quotient of two numbers, the second of which is not zero, is no number exactly if both are
infinite. -/
lemma isNaN_div_iff (hx : x.isNaN = false) (hy : y.isNaN = false) (hzero : (y == 0) = false) :
    (x / y).isNaN = true ↔ x.isInf = true ∧ y.isInf = true := by
  have hdiv : (x / y).isNaN = (x.isInf && y.isInf) := by
    change (Float.Model.pack (x.toModel.unpack.div Format.binary64 y.toModel.unpack)).unpack.isNaN
      = (x.toModel.unpack.isInf && y.toModel.unpack.isInf)
    rw [isNaN_unpack_pack]
    exact isNaN_div_of_ne_zero hx hy (unpack_ne_zero hzero)
  rw [hdiv, Bool.and_eq_true]

/-- Dividing by a finite number other than zero gives a number exactly for a number. -/
lemma isNaN_div_of_isFinite (x : Float) (hy : y.isFinite = true) (hzero : (y == 0) = false) :
    (x / y).isNaN = x.isNaN := by
  obtain ⟨s, m, e, hm, hu⟩ := exists_unpack_eq_finite hy hzero
  change (Float.Model.pack (x.toModel.unpack.div Format.binary64 y.toModel.unpack)).unpack.isNaN
    = x.toModel.unpack.isNaN
  rw [isNaN_unpack_pack, hu, isNaN_div_finite]

/-- Multiplying by a finite number other than zero gives a number exactly for a number. -/
lemma isNaN_mul_of_isFinite (x : Float) (hy : y.isFinite = true) (hzero : (y == 0) = false) :
    (x * y).isNaN = x.isNaN := by
  obtain ⟨s, m, e, hm, hu⟩ := exists_unpack_eq_finite hy hzero
  change (Float.Model.pack (x.toModel.unpack.mul Format.binary64 y.toModel.unpack)).unpack.isNaN
    = x.toModel.unpack.isNaN
  rw [isNaN_unpack_pack, hu, isNaN_mul_finite]

/-- Adding a finite number gives a number exactly for a number. -/
lemma isNaN_add_of_isFinite (x : Float) (hy : y.isFinite = true) :
    (x + y).isNaN = x.isNaN := by
  change (Float.Model.pack (x.toModel.unpack.add Format.binary64 y.toModel.unpack)).unpack.isNaN
    = x.toModel.unpack.isNaN
  rw [isNaN_unpack_pack]
  exact isNaN_add_finite hy

/-- Of what is not finite there is no quotient. -/
lemma isNaN_div_of_not_isFinite (hx : x.isFinite = false) (hy : y.isFinite = false) :
    (x / y).isNaN = true := by
  change (Float.Model.pack
    (x.toModel.unpack.div Format.binary64 y.toModel.unpack)).unpack.isNaN = true
  rw [isNaN_unpack_pack]
  exact isNaN_div_infinite hx hy

/-- The quotient of a finite number by an infinite one is a zero. -/
lemma exists_unpack_div_eq_zero (hx : x.isFinite = true) (hy : y.isInf = true) :
    ∃ s, (x / y).toModel.unpack = .zero s := by
  obtain ⟨t, hv⟩ := exists_unpack_eq_infinity hy
  change x.toModel.unpack.isFinite = true at hx
  change ∃ s, (Float.Model.pack
    (x.toModel.unpack.div Format.binary64 y.toModel.unpack)).unpack = .zero s
  rw [hv]
  cases hu : x.toModel.unpack with
  | finite s m e hm => exact ⟨s / t, unpack_pack_zero _⟩
  | zero s => exact ⟨s / t, unpack_pack_zero _⟩
  | infinity s => rw [hu] at hx; cases hx
  | notANumber => rw [hu] at hx; cases hx

/-! ### Distances -/

/-- The distance as it is computed, before it is packed. -/
lemma abs_sub_eq (x y : Float) :
    (x - y).abs = .ofModel (Float.Model.pack (Float.Model.pack
      (x.toModel.unpack.sub Format.binary64 y.toModel.unpack)).unpack.abs) := rfl

/-- A finite number is at distance zero from itself. -/
lemma abs_sub_self_of_isFinite (hx : x.isFinite = true) : (x - x).abs = 0 := by
  have hsub : x.toModel.unpack.sub Format.binary64 x.toModel.unpack = .zero .positive := by
    change x.toModel.unpack.isFinite = true at hx
    cases hu : x.toModel.unpack with
    | finite s m e hm =>
        simp [Float.Model.UnpackedFloat.sub, Float.Model.UnpackedFloat.normalize]
    | zero s => cases s <;> rfl
    | infinity s => rw [hu] at hx; cases hx
    | notANumber => rw [hu] at hx; cases hx
  rw [abs_sub_eq, hsub, unpack_pack_zero]
  rfl

/-- An infinite number has no distance from itself. -/
lemma isNaN_abs_sub_of_beq (hx : x.isInf = true) (h : (y == x) = true) :
    (x - y).abs.isNaN = true := by
  obtain ⟨s, hu⟩ := exists_unpack_eq_infinity hx
  have hsub : x.toModel.unpack.sub Format.binary64 y.toModel.unpack = .notANumber := by
    change y.toModel.unpack.beq x.toModel.unpack = true at h
    rw [hu] at h ⊢
    cases hv : y.toModel.unpack with
    | infinity t => rw [hv] at h; cases s <;> cases t <;> first | rfl | cases h
    | finite t m e hm => rw [hv] at h; cases s <;> cases t <;> cases h
    | zero t => rw [hv] at h; cases s <;> cases t <;> cases h
    | notANumber => rfl
  rw [abs_sub_eq, hsub]
  rfl

/-- From every other number its distance is infinite. -/
lemma abs_sub_eq_infinity (hx : x.isInf = true) (hy : y.isNaN = false) (h : (y == x) = false) :
    (x - y).abs = 1 / 0 := by
  obtain ⟨s, hu⟩ := exists_unpack_eq_infinity hx
  have hsub : x.toModel.unpack.sub Format.binary64 y.toModel.unpack = .infinity s := by
    change y.toModel.unpack.beq x.toModel.unpack = false at h
    change y.toModel.unpack.isNaN = false at hy
    rw [hu] at h ⊢
    cases hv : y.toModel.unpack with
    | infinity t => rw [hv] at h; cases s <;> cases t <;> first | rfl | cases h
    | finite t m e hm => rfl
    | zero t => rfl
    | notANumber => rw [hv] at hy; cases hy
  rw [abs_sub_eq, hsub, unpack_pack_infinity]
  rfl

/-- Numbers that are compared as equal are the same, or both zero with whatever signs. -/
lemma eq_or_zero_of_compare {u v : Float.Model.UnpackedFloat} (h : u.compare v = some .eq) :
    u = v ∨ ∃ s t, u = .zero s ∧ v = .zero t := by
  have hdigits : ∀ {m n : ℕ} {e k : ℤ}, (compare e k).then (compare m n) = .eq → e = k ∧ m = n := by
    intro m n e k heq
    obtain ⟨he, hm⟩ := Ordering.then_eq_eq.mp heq
    exact ⟨compare_eq_iff_eq.mp he, compare_eq_iff_eq.mp hm⟩
  -- apart from zeros, numbers of different kinds or signs are never equal
  cases u with
  | notANumber => cases h
  | infinity s =>
      cases v with
      | infinity t => cases s <;> cases t <;> first | exact Or.inl rfl | cases h
      | notANumber => cases h
      | zero t => cases s <;> cases h
      | finite t n k hn => cases s <;> cases h
  | zero s =>
      cases v with
      | zero t => exact Or.inr ⟨s, t, rfl, rfl⟩
      | notANumber => cases h
      | infinity t => cases t <;> cases h
      | finite t n k hn => cases t <;> cases h
  | finite s m e hm =>
      cases v with
      | notANumber => cases s <;> cases h
      | infinity t => cases s <;> cases t <;> cases h
      | zero t => cases s <;> cases h
      | finite t n k hn =>
          -- of the same sign, they are compared by their digits
          cases s <;> cases t
          case negative.negative =>
            obtain ⟨rfl, rfl⟩ := hdigits (Ordering.swap_eq_eq.mp (Option.some.inj h))
            exact Or.inl rfl
          case positive.positive =>
            obtain ⟨rfl, rfl⟩ := hdigits (Option.some.inj h)
            exact Or.inl rfl
          all_goals cases h

/-- Equal numbers are at the same distance from any other. -/
lemma abs_sub_congr (h : (x == y) = true) (z : Float) : (x - z).abs = (y - z).abs := by
  have hcompare : x.toModel.unpack.compare y.toModel.unpack = some .eq := eq_of_beq h
  rw [abs_sub_eq, abs_sub_eq]
  rcases eq_or_zero_of_compare hcompare with heq | ⟨s, t, hx, hy⟩
  · rw [heq]
  · rw [hx, hy]
    cases z.toModel.unpack with
    | notANumber => rfl
    | infinity r => rfl
    | zero r => cases s <;> cases t <;> cases r <;> rfl
    | finite r m e hm => rfl

/-! ### Numbers that are read -/

lemma isNaN_toFloat (n : UInt64) : n.toFloat.isNaN = false := by
  change (Float.Model.pack (Float.Model.UnpackedFloat.ofUInt64 Format.binary64 n)).unpack.isNaN
    = false
  rw [isNaN_unpack_pack, Float.Model.UnpackedFloat.ofUInt64, Float.Model.UnpackedFloat.ofNat,
    Float.Model.UnpackedFloat.ofInt, isNaN_normalize]

/-- What is written with digits and a power of ten is a number. -/
lemma isNaN_ofScientific (m : Nat) (negative : Bool) (e : Nat) :
    (Float.ofScientific m negative e).isNaN = false := by
  -- the powers of the table are finite, and none is zero
  have hpower : ∀ e : Fin 23, (Float.exactlyRepresentablePowersOfTen[e]).isFinite = true
      ∧ (Float.exactlyRepresentablePowersOfTen[e] == 0) = false := by
    decide
  rw [Float.ofScientific]
  split
  case isTrue h =>
    obtain ⟨hfinite, hzero⟩ := hpower ⟨e, by omega⟩
    have hm := isNaN_toFloat m.toUInt64
    dsimp only
    split
    · exact (isNaN_div_of_isFinite _ hfinite hzero).trans hm
    · exact (isNaN_mul_of_isFinite _ hfinite hzero).trans hm
  case isFalse =>
    -- otherwise an exact product or quotient of finite numbers is rounded
    generalize (if negative = true then Int.negOfNat e else Int.ofNat e) = k
    change (Float.Model.pack
      (Float.Model.UnpackedFloat.ofScientific Format.binary64 m k)).unpack.isNaN = false
    rw [isNaN_unpack_pack, Float.Model.UnpackedFloat.ofScientific]
    split
    · rfl
    · split
      · rfl
      · split
        · rfl
        · split
          · exact isNaN_mul_finite _ _ _ _
          · exact isNaN_div_finite _ _ _ _

lemma isNaN_nearest (negative : Bool) (m : Nat) (e : Int) :
    (nearest negative m e).isNaN = false := by
  have hmagnitude : ∀ size : Int, (if m = 0 then 0 else if 310 < size then 1 / 0
      else if size < -330 then 0
      else Float.ofScientific m (decide (e < 0)) e.natAbs : Float).isNaN = false := by
    intro size
    split
    · decide
    · split
      · decide
      · split
        · decide
        · exact isNaN_ofScientific _ _ _
  rw [nearest]
  cases negative with
  | false => exact hmagnitude _
  | true => exact (isNaN_neg _).trans (hmagnitude _)

/-- What a text writes is a number. -/
lemma isNaN_readNumber? {s : Text} (h : readNumber? s = some x) : x.isNaN = false := by
  rw [readNumber?, Option.map_eq_some_iff] at h
  obtain ⟨n, -, rfl⟩ := h
  exact isNaN_nearest _ _ _

/-- A number with hundreds of digits is read as infinite. -/
lemma readNumber?_powerOfTen {k : Nat} (h : 310 ≤ k) :
    readNumber? (powerOfTen k) = some (1 / 0) := by
  have hcut : Text.cut? '.' (powerOfTen k) = none := by
    refine Text.cut?_eq_none fun hdot => ?_
    rcases List.mem_cons.mp hdot with hdot | hdot
    · exact absurd hdot (by decide)
    · exact absurd (List.eq_of_mem_replicate hdot) (by decide)
  have hread : Numeral.ofText? (powerOfTen k) = some ⟨false, powerOfTen k, []⟩ := by
    change Numeral.ofUnsigned? false (powerOfTen k) = _
    rw [Numeral.ofUnsigned?, hcut]
    exact if_pos (isDigits_powerOfTen k)
  have hlength : 310 < (digits (10 ^ k)).length := h.trans_lt (lt_length_digits le_rfl)
  have hpos : 10 ^ k ≠ 0 := (Nat.pow_pos (by decide)).ne'
  rw [readNumber?, hread, Option.map_some, Numeral.toFloat, List.append_nil, value_powerOfTen,
    nearest]
  simp only [List.length_nil, Int.natCast_zero, Int.neg_zero, Int.add_zero, Option.some.injEq]
  rw [if_neg Bool.false_ne_true, if_neg hpos, if_pos (by omega)]

/-! ### Numbers that are written -/

lemma isNaN_roundToWhole (x : Float) : (roundToWhole x).isNaN = x.isNaN := by
  rw [roundToWhole]
  split
  case h_1 hx =>
    rw [isNaN_nearest, Float.isNaN, Float.Model.isNaN, hx]
    rfl
  case h_2 => rfl

lemma isNaN_rounded (x : Float) : (roundToWhole (x * 100) / 100).isNaN = x.isNaN := by
  have hfinite : (100 : Float).isFinite = true := by decide
  have hzero : ((100 : Float) == 0) = false := by decide
  rw [isNaN_div_of_isFinite _ hfinite hzero, isNaN_roundToWhole,
    isNaN_mul_of_isFinite _ hfinite hzero]

lemma beq_zero_of_isInf (h : x.isInf = true) : (x == 0) = false := by
  obtain ⟨s, hs⟩ := exists_unpack_eq_infinity h
  change x.toModel.unpack.beq (0 : Float).toModel.unpack = false
  rw [hs]
  cases s <;> rfl

lemma beq_zero_of_isNaN (h : x.isNaN = true) : (x == 0) = false := by
  change x.toModel.unpack.beq (0 : Float).toModel.unpack = false
  rw [unpack_eq_notANumber h]
  rfl

/-- A zero is finite. -/
lemma isFinite_of_beq_zero (h : (x == 0) = true) : x.isFinite = true := by
  refine isFinite_of_isNaN_isInf ?_ ?_ <;> by_contra hx <;> rw [Bool.not_eq_false] at hx
  · rw [beq_zero_of_isNaN hx] at h
    cases h
  · rw [beq_zero_of_isInf hx] at h
    cases h

/-- What is no number is written as such. -/
lemma twoPlaces_of_isNaN (h : x.isNaN = true) : twoPlaces x = "NaN".toList := by
  have hrounded : (roundToWhole (x * 100) / 100).isNaN = true := (isNaN_rounded x).trans h
  simp only [twoPlaces, beq_zero_of_isNaN hrounded]
  rw [if_neg (by decide), Notation.render, unpack_eq_notANumber hrounded]

/-- A number with at most two places is written with digits, signs, a point, or the word for
infinity. -/
lemma mem_twoPlaces {c : Char} (hx : x.isNaN = false) (h : c ∈ twoPlaces x) :
    isDigit c = true ∨ c ∈ numberMarks ∨ c ∈ "inf".toList := by
  simp only [twoPlaces] at h
  have hshown : (if roundToWhole (x * 100) / 100 == 0 then 0
      else roundToWhole (x * 100) / 100 : Float).isNaN = false := by
    split
    · decide
    · exact (isNaN_rounded x).trans hx
  rcases mem_render h with h | h | h | ⟨hnan, -⟩
  · exact Or.inl h
  · exact Or.inr (Or.inl h)
  · exact Or.inr (Or.inr h)
  · rw [hshown] at hnan
    cases hnan

end Decimal

end Grading
