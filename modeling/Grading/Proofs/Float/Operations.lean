/-
What floating-point operations compute: the exact result, rounded, or an infinite number if that is
too large.

* `value`: the number that a floating-point number stands for;
* `Rounds`: a floating-point number is a given number, rounded, `rounds_value`: as a finite one is
  itself;
* `rounds_add`, `rounds_mul`: sums and products are the exact results, rounded;
* `isFinite_of_add`: a sum is finite only if both parts are;
* `Rounds.value_nonneg`, `value_add_nonneg`: what is not negative is not negative when rounded.
-/
import Grading.Proofs.Decimal.Special
import Grading.Proofs.Float.Mantissa
import Grading.Proofs.Float.Packing

namespace Grading

namespace Binary64

open Float.Model (Format UnpackedFloat totalExponent)
open Float.Model.UnpackedFloat (Accuracy Sign)

variable {s : Sign} {u : UnpackedFloat} {m n : ℕ} {e k : ℤ} {p q : ℚ} {x y : Float}

/-! ### Values -/

/-- A size with a sign. -/
def signed : Sign → ℚ → ℚ
  | .negative, q => -q
  | .positive, q => q

/-- The number that an unpacked number stands for; zero if it is not finite. -/
def unpackedValue : UnpackedFloat → ℚ
  | .finite s m e _ => signed s (m * 2 ^ e)
  | _ => 0

/-- The number that a floating-point number stands for; zero if it is not finite. -/
def value (x : Float) : ℚ := unpackedValue x.toModel.unpack

/-- The first power of two that is too large. -/
def limit : ℚ := 2 ^ (1024 : ℤ)

lemma limit_pos : 0 < limit := two_zpow_pos _

lemma abs_signed (s : Sign) (q : ℚ) : |signed s q| = |q| := by
  cases s with
  | negative => exact abs_neg q
  | positive => rfl

lemma signed_zero (s : Sign) : signed s 0 = 0 := by
  cases s with
  | negative => exact neg_zero
  | positive => rfl

lemma rounded_signed (s : Sign) (hq : 0 ≤ q) : rounded (signed s q) = signed s (roundedSize q) := by
  cases s with
  | negative => rw [signed, rounded_neg, rounded_of_nonneg hq, signed]
  | positive => exact rounded_of_nonneg hq

lemma rounded_zero : rounded 0 = 0 := by rw [rounded_of_nonneg le_rfl, roundedSize_zero]

lemma size_nonneg (m : ℕ) (e : ℤ) : (0 : ℚ) ≤ m * 2 ^ e :=
  mul_nonneg (Nat.cast_nonneg m) (two_zpow_pos e).le

/-- A number is too large exactly if its unit is. -/
lemma Digits.lt_limit_iff (h : Digits m e) : (m : ℚ) * 2 ^ e < limit ↔ e < 972 := by
  constructor
  · intro hlt
    by_contra hlarge
    have hfull : 2 ^ 52 ≤ m := h.full.resolve_right (by omega)
    have hle : limit ≤ m * 2 ^ e := by
      calc limit = 2 ^ (52 : ℤ) * 2 ^ (972 : ℤ) := (two_zpow_mul 52 972).symm
        _ ≤ m * 2 ^ e :=
          mul_le_mul (by exact_mod_cast hfull) (two_zpow_le (by omega)) (two_zpow_pos _).le
            (Nat.cast_nonneg m)
    linarith
  · intro hsmall
    have hm : (m : ℚ) < 2 ^ (53 : ℤ) := by exact_mod_cast h.lt
    calc (m : ℚ) * 2 ^ e < 2 ^ (53 : ℤ) * 2 ^ e := mul_lt_mul_of_pos_right hm (two_zpow_pos e)
      _ = 2 ^ (53 + e) := two_zpow_mul 53 e
      _ ≤ limit := two_zpow_le (by omega)

/-- Whether a floating-point number is the given number, rounded: it is finite exactly if the
rounded number is not too large, and then it stands for it. -/
structure Rounds (x : Float) (q : ℚ) : Prop where
  /-- When it is finite. -/
  isFinite_iff : x.isFinite = true ↔ |rounded q| < limit
  /-- What it stands for then. -/
  value_eq : x.isFinite = true → value x = rounded q

lemma rounds_pack_zero (s : Sign) : Rounds (.ofModel (Float.Model.pack (.zero s))) 0 where
  isFinite_iff := by
    rw [rounded_zero, abs_zero]
    change (Float.Model.pack (.zero s)).unpack.isFinite = true ↔ _
    rw [Decimal.unpack_pack_zero]
    exact iff_of_true rfl limit_pos
  value_eq _ := by
    change unpackedValue (Float.Model.pack (.zero s)).unpack = _
    rw [Decimal.unpack_pack_zero, rounded_zero]
    rfl

lemma rounds_pack_finite (h : Digits m e) (hm : 0 < m) (hsize : (m : ℚ) * 2 ^ e = roundedSize q)
    (hq : 0 ≤ q) : Rounds (.ofModel (Float.Model.pack (.finite s m e hm))) (signed s q) where
  isFinite_iff := by
    rw [abs_rounded, abs_signed, abs_of_nonneg hq, ← hsize, h.lt_limit_iff]
    change (Float.Model.pack (.finite s m e hm)).unpack.isFinite = true ↔ _
    rw [unpack_pack_finite h hm]
    split_ifs with hlt
    · exact iff_of_true rfl hlt
    · exact iff_of_false Bool.false_ne_true hlt
  value_eq hfinite := by
    change (Float.Model.pack (.finite s m e hm)).unpack.isFinite = true at hfinite
    change unpackedValue (Float.Model.pack (.finite s m e hm)).unpack = _
    rw [unpack_pack_finite h hm] at hfinite ⊢
    split_ifs at hfinite ⊢ with hlt
    · rw [rounded_signed s hq, ← hsize, unpackedValue]
    · cases hfinite

/-- Packing a rounded number keeps it, unless it is too large. -/
lemma rounds_pack (hq : 0 ≤ q) (h : IsRounded s q u) :
    Rounds (.ofModel (Float.Model.pack u)) (signed s q) := by
  cases u with
  | infinity t => exact h.elim
  | notANumber => exact h.elim
  | finite t m e hm =>
      obtain ⟨rfl, hdigits, hsize⟩ := h
      exact rounds_pack_finite hdigits hm hsize hq
  | zero t =>
      obtain ⟨rfl, hzero⟩ := h
      have hrounds := rounds_pack_zero t
      have hrounded : rounded (signed t q) = rounded 0 := by
        rw [rounded_signed t hq, hzero, signed_zero, rounded_zero]
      exact ⟨hrounded ▸ hrounds.isFinite_iff, hrounded ▸ hrounds.value_eq⟩

/-! ### Finite numbers -/

/-- A finite number is a zero, or has digits that are not too large. -/
lemma zero_or_digits (hx : x.isFinite = true) :
    (∃ s, x.toModel.unpack = .zero s) ∨
      ∃ s m e hm, x.toModel.unpack = .finite s m e hm ∧ Digits m e ∧ e < 972 := by
  change x.toModel.unpack.isFinite = true at hx
  cases hu : x.toModel.unpack with
  | infinity s => rw [hu] at hx; cases hx
  | notANumber => rw [hu] at hx; cases hx
  | zero s => exact Or.inl ⟨s, rfl⟩
  | finite s m e hm => exact Or.inr ⟨s, m, e, hm, rfl, digits_of_unpack hu⟩

lemma value_of_zero (h : x.toModel.unpack = .zero s) : value x = 0 := by
  rw [value, h]
  rfl

lemma value_zero : value 0 = 0 := value_of_zero (s := .positive) rfl

lemma value_of_finite {hm : 0 < m} (h : x.toModel.unpack = .finite s m e hm) :
    value x = signed s (m * 2 ^ e) := by
  rw [value, h, unpackedValue]

lemma value_of_not_isFinite (h : x.isFinite = false) : value x = 0 := by
  change x.toModel.unpack.isFinite = false at h
  rw [value]
  cases hu : x.toModel.unpack with
  | finite s m e hm => rw [hu] at h; cases h
  | _ => rfl

lemma Rounds.value_nonneg (h : Rounds x q) (hq : 0 ≤ q) : 0 ≤ value x := by
  cases hx : x.isFinite with
  | true => rw [h.value_eq hx]; exact rounded_nonneg hq
  | false => exact (value_of_not_isFinite hx).ge

/-- What is up to a number that is kept is not too large, and is up to it when rounded. -/
lemma Rounds.le_of_le (h : Rounds x p) (hp : 0 ≤ p) (hle : p ≤ q) (hq : roundedSize q = q)
    (hlimit : q < limit) : x.isFinite = true ∧ value x ≤ q := by
  have hrounded : rounded p ≤ q := by
    rw [← hq, ← rounded_of_nonneg (hp.trans hle)]
    exact rounded_mono hle
  have hx : x.isFinite = true := by
    rw [h.isFinite_iff, abs_of_nonneg (rounded_nonneg hp)]
    exact hrounded.trans_lt hlimit
  exact ⟨hx, (h.value_eq hx).trans_le hrounded⟩

/-- A finite number is itself, rounded. -/
lemma rounds_value (hx : x.isFinite = true) : Rounds x (value x) := by
  rcases zero_or_digits hx with ⟨s, hu⟩ | ⟨s, m, e, hm, hu, hdigits, he⟩
  · rw [value_of_zero hu]
    refine ⟨iff_of_true hx ?_, fun _ => by rw [rounded_zero, value_of_zero hu]⟩
    rw [rounded_zero, abs_zero]
    exact limit_pos
  · have hrounded : rounded (value x) = value x := by
      rw [value_of_finite hu, rounded_signed s (size_nonneg m e), hdigits.roundedSize_eq]
    refine ⟨iff_of_true hx ?_, fun _ => hrounded.symm⟩
    rw [hrounded, value_of_finite hu, abs_signed, abs_of_nonneg (size_nonneg m e)]
    exact hdigits.lt_limit_iff.mpr he

/-- A finite number is kept when it is packed. -/
lemma rounds_pack_unpack (hx : x.isFinite = true) :
    Rounds (.ofModel (Float.Model.pack x.toModel.unpack)) (value x) := by
  rcases zero_or_digits hx with ⟨s, hu⟩ | ⟨s, m, e, hm, hu, hdigits, -⟩
  · rw [hu, value_of_zero hu]
    exact rounds_pack_zero s
  · rw [hu, value_of_finite hu]
    exact rounds_pack_finite hdigits hm hdigits.roundedSize_eq.symm (size_nonneg m e)

/-! ### Sums -/

/-- A mantissa with its sign, in units that are not larger. -/
lemma apply_decreaseExponent (s : Sign) (m : ℕ) (h : k ≤ e) :
    ((s.apply (UnpackedFloat.decreaseExponent m e k).1 : ℤ) : ℚ) * 2 ^ k
      = signed s (m * 2 ^ e) := by
  have hsize := decreaseExponent_size m e k
  have hexponent : (UnpackedFloat.decreaseExponent m e k).2 = k := by
    simp only [UnpackedFloat.decreaseExponent]
    omega
  rw [hexponent] at hsize
  cases s with
  | negative => rw [signed, ← hsize, Sign.apply, Int.cast_neg, Int.cast_natCast, neg_mul]
  | positive => rw [signed, ← hsize, Sign.apply, Int.cast_natCast]

/-- What is normalized is rounded. -/
lemma rounds_pack_normalize (n : ℤ) (e : ℤ) (s : Sign) :
    Rounds (.ofModel (Float.Model.pack (UnpackedFloat.normalize Format.binary64 n e s)))
      (n * 2 ^ e) := by
  rcases eq_or_ne n 0 with rfl | hn
  · rw [Int.cast_zero, zero_mul]
    exact rounds_pack_zero s
  · have hsigned : (n : ℚ) * 2 ^ e
        = signed (if n < 0 then .negative else .positive) (|(n : ℚ)| * 2 ^ e) := by
      split_ifs with hneg
      · rw [abs_of_neg (by exact_mod_cast hneg), signed, neg_mul, neg_neg]
      · rw [abs_of_nonneg (by exact_mod_cast not_lt.mp hneg), signed]
    rw [hsigned]
    exact rounds_pack (mul_nonneg (abs_nonneg _) (two_zpow_pos e).le) (isRounded_normalize hn e)

/-- The sum of finite numbers is the exact sum, rounded. -/
lemma rounds_add (hx : x.isFinite = true) (hy : y.isFinite = true) :
    Rounds (x + y) (value x + value y) := by
  change Rounds (.ofModel (Float.Model.pack
    (x.toModel.unpack.add Format.binary64 y.toModel.unpack))) _
  rcases zero_or_digits hx with ⟨s, hu⟩ | ⟨s, m, e, hm, hu, -, -⟩
  · rcases zero_or_digits hy with ⟨t, hv⟩ | ⟨t, n, k, hn, hv, -, -⟩
    · rw [hu, hv, value_of_zero hu, value_of_zero hv, zero_add, UnpackedFloat.add]
      split <;> exact rounds_pack_zero _
    · have hy' := rounds_pack_unpack hy
      rw [hv] at hy'
      rw [hu, hv, value_of_zero hu, zero_add]
      exact hy'
  · rcases zero_or_digits hy with ⟨t, hv⟩ | ⟨t, n, k, hn, hv, -, -⟩
    · have hx' := rounds_pack_unpack hx
      rw [hu] at hx'
      rw [hu, hv, value_of_zero hv, add_zero]
      exact hx'
    · -- both are counted in the smaller unit, and so added exactly
      rw [hu, hv, value_of_finite hu, value_of_finite hv,
        ← apply_decreaseExponent s m (min_le_left e k),
        ← apply_decreaseExponent t n (min_le_right e k), ← add_mul, ← Int.cast_add]
      exact rounds_pack_normalize _ _ _

/-- Packing makes nothing finite. -/
lemma isFinite_of_pack (h : (Float.Model.pack u).unpack.isFinite = true) : u.isFinite = true := by
  cases u with
  | infinity s =>
      rw [Decimal.unpack_pack_infinity] at h
      cases h
  | notANumber => cases h
  | zero s => rfl
  | finite s m e hm => rfl

/-- A sum is finite only if both parts are. -/
lemma isFinite_of_add (h : (x + y).isFinite = true) : x.isFinite = true ∧ y.isFinite = true := by
  have hsum : (x.toModel.unpack.add Format.binary64 y.toModel.unpack).isFinite = true :=
    isFinite_of_pack h
  change x.toModel.unpack.isFinite = true ∧ y.toModel.unpack.isFinite = true
  generalize x.toModel.unpack = u at hsum ⊢
  generalize y.toModel.unpack = v at hsum ⊢
  rcases u with (_ | _) | _ | _ | _ <;> rcases v with (_ | _) | _ | _ | _ <;>
    first | exact ⟨rfl, rfl⟩ | cases hsum

lemma value_add_nonneg (hx : 0 ≤ value x) (hy : 0 ≤ value y) : 0 ≤ value (x + y) := by
  cases h : (x + y).isFinite with
  | true =>
      obtain ⟨hx', hy'⟩ := isFinite_of_add h
      exact (rounds_add hx' hy').value_nonneg (add_nonneg hx hy)
  | false => exact (value_of_not_isFinite h).ge

/-! ### Products -/

lemma signed_mul_signed (s t : Sign) (p q : ℚ) :
    signed s p * signed t q = signed (s * t) (p * q) := by
  cases s <;> cases t <;>
    first | exact neg_mul_neg p q | exact neg_mul p q | exact mul_neg p q | rfl

/-- The product of two sizes is rounded, if the product of the mantissas has enough digits. -/
lemma rounds_pack_mul {s t : Sign} (hm : 0 < m) (hn : 0 < n) (h : 2 ^ 52 ≤ m * n ∨ e + k ≤ -1074) :
    Rounds (.ofModel (Float.Model.pack
      (UnpackedFloat.mul Format.binary64 (.finite s m e hm) (.finite t n k hn))))
      (signed s (m * 2 ^ e) * signed t (n * 2 ^ k)) := by
  have hproduct : (m : ℚ) * 2 ^ e * (n * 2 ^ k) = (m * n : ℕ) * 2 ^ (e + k) := by
    rw [← two_zpow_mul]
    push_cast
    ring
  rw [signed_mul_signed, hproduct]
  refine rounds_pack (size_nonneg _ _) ?_
  refine isRounded_roundWithAccuracy (a := .exact) rfl ?_
  rw [targetExponent_eq]
  rcases h with hfull | hleast
  · have hlog : 52 ≤ Nat.log2 (m * n) := (Nat.le_log2 (Nat.mul_pos hm hn).ne').mpr hfull
    omega
  · omega

/-- The product of finite numbers is the exact product, rounded. -/
lemma rounds_mul (hx : x.isFinite = true) (hy : y.isFinite = true) :
    Rounds (x * y) (value x * value y) := by
  change Rounds (.ofModel (Float.Model.pack
    (x.toModel.unpack.mul Format.binary64 y.toModel.unpack))) _
  rcases zero_or_digits hx with ⟨s, hu⟩ | ⟨s, m, e, hm, hu, hdigits, -⟩
  · rw [value_of_zero hu, zero_mul, hu]
    rcases zero_or_digits hy with ⟨t, hv⟩ | ⟨t, n, k, hn, hv, -, -⟩ <;> rw [hv] <;>
      exact rounds_pack_zero _
  · rcases zero_or_digits hy with ⟨t, hv⟩ | ⟨t, n, k, hn, hv, hdigits', -⟩
    · rw [value_of_zero hv, mul_zero, hu, hv]
      exact rounds_pack_zero _
    · rw [value_of_finite hu, value_of_finite hv, hu, hv]
      refine rounds_pack_mul hm hn ?_
      rcases hdigits.full with hfull | hleast
      · exact Or.inl (hfull.trans (Nat.le_mul_of_pos_right m hn))
      · rcases hdigits'.full with hfull' | hleast'
        · exact Or.inl (hfull'.trans (Nat.le_mul_of_pos_left n hm))
        · exact Or.inr (by omega)

end Binary64

end Grading
