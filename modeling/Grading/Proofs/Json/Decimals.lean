/-
The reader accepts what is written of finite floating-point numbers.

* `Spelled.size`: the exact size of a number as it is spelled;
* `Spelled.isSome_toFloat?`: up to a bound it is read, however its digits are kept and rounded;
* `spells_layout`: a decimal is spelled as itself;
* `written_ofFloat`, `isSome_reread`: a floating-point number is a word, or nothing, and read back
  as some number exactly if it is finite.
-/
import Grading.Proofs.Decimal.Shortest
import Grading.Proofs.Json.Numbers
import Grading.Proofs.Json.Scaled

namespace Grading

namespace Json

open Decimal (Binary digits isDigit isDigits isDigits_iff portable readExponent? toRat
  value_append_zeros value_lt value_zeros_append wordCount)

variable {s t : Text} {d : Decimal} {x : Float} {q : ℚ}

/-! ### The size of a spelled number -/

/-- The exact size of a number as it is spelled. -/
def Spelled.size (n : Spelled) : ℚ :=
  Decimal.value (n.whole ++ n.fraction.getD [])
    * 10 ^ (n.exponent.getD 0 - ((n.fraction.getD []).length : ℤ))

lemma valueFrom_value (s t : Text) : valueFrom (Decimal.value s) t = Decimal.value (s ++ t) :=
  (List.foldl_append ..).symm

/-- A number is read unless it is too large, provided that the digits in front of the point fit 64
bits. -/
lemma Spelled.isSome_toFloat? {n : Spelled} (hfront : Decimal.value n.whole < wordCount)
    (h : n.size ≤ greatestSize) : n.toFloat?.isSome = true := by
  have hkept : keepDigits 0 n.whole = (Decimal.value n.whole, 0) := keepDigits_of_lt hfront
  obtain ⟨m, dropped, hrest⟩ : ∃ m dropped,
      keepDigits (Decimal.value n.whole) (n.fraction.getD []) = (m, dropped) := ⟨_, _, rfl⟩
  obtain ⟨hm, hdropped, hle⟩ := keepDigits_le hfront hrest
  rw [valueFrom_value] at hle
  rw [Spelled.toFloat?]
  simp only [hkept, hrest, Option.isSome_map]
  refine isSome_scaled?_of_le hm (le_trans ?_ h)
  have hshift : ((0 : ℕ) : ℤ) - (((n.fraction.getD []).length - dropped : ℕ) : ℤ)
      + n.exponent.getD 0 = dropped + (n.exponent.getD 0 - ((n.fraction.getD []).length : ℤ)) := by
    omega
  rw [hshift, zpow_add₀ (by norm_num : (10 : ℚ) ≠ 0), zpow_natCast, ← mul_assoc, size]
  refine mul_le_mul_of_nonneg_right ?_ (Decimal.ten_zpow_pos _).le
  exact_mod_cast hle

/-! ### How decimals are spelled -/

/-- The exponent is read back. -/
lemma readExponent?_digits (e : ℤ) :
    readExponent? ('e' :: (if e < 0 then '-' else '+') :: digits e.natAbs) = some e := by
  have hread : Decimal.readNat? (digits e.natAbs) = some e.natAbs := by
    rw [Decimal.readNat?, if_pos (Decimal.isDigits_digits _), Decimal.value_digits]
  split_ifs with hneg
  · simp only [readExponent?, Decimal.takeSign, hread]
    change some (-(e.natAbs : ℤ)) = some e
    rw [Int.ofNat_natAbs_of_nonpos hneg.le, neg_neg]
  · simp only [readExponent?, Decimal.takeSign, hread]
    change some (e.natAbs : ℤ) = some e
    rw [Int.natAbs_of_nonneg (not_lt.mp hneg)]

/-- Whether a text is spelled as a number of the given size, with or without a minus, and with few
digits in front of the point. -/
def Spells (s : Text) (q : ℚ) : Prop :=
  ∃ n : Spelled, (∀ negative, splitNumeric? (minus negative ++ s) = some { n with negative }) ∧
    Decimal.value n.whole < wordCount ∧ n.size = q

/-- A text with its parts is spelled as the number that the parts tell. -/
lemma spells_parts {whole : Text} (fraction : Option Text) (tail : Text) (exponent : Option ℤ)
    (hwhole : isDigits whole = true) (hzero : whole.head? = some '0' → whole.length = 1)
    (hfraction : ∀ t, fraction = some t → isDigits t = true) (hlength : whole.length ≤ 16)
    (htail : (tail = [] ∧ exponent = none) ∨
      ∃ t e, tail = 'e' :: t ∧ readExponent? tail = some e ∧ exponent = some e) :
    Spells (whole ++ (pointed fraction ++ tail))
      (Decimal.value (whole ++ fraction.getD [])
        * 10 ^ (exponent.getD 0 - ((fraction.getD []).length : ℤ))) := by
  refine ⟨⟨false, whole, fraction, exponent⟩, fun negative => ?_, ?_, rfl⟩
  · rcases htail with ⟨rfl, rfl⟩ | ⟨t, e, rfl, hread, rfl⟩
    · rw [splitNumeric?_parts negative hwhole hzero hfraction (Or.inl rfl), if_pos rfl]
    · rw [splitNumeric?_parts negative hwhole hzero hfraction (Or.inr ⟨t, rfl⟩),
        if_neg (List.cons_ne_nil _ _), hread, Option.map_some]
  · calc Decimal.value whole < 10 ^ whole.length := value_lt (isDigits_iff.mp hwhole).2
      _ ≤ 10 ^ 16 := Nat.pow_le_pow_right (by decide) hlength
      _ < wordCount := by decide

lemma isDigits_append {s t : Text} (hs : isDigits s = true) (ht : ∀ c ∈ t, isDigit c = true) :
    isDigits (s ++ t) = true := by
  obtain ⟨hne, hdigits⟩ := isDigits_iff.mp hs
  refine isDigits_iff.mpr ⟨List.append_ne_nil_of_left_ne_nil hne t, fun c hc => ?_⟩
  exact (List.mem_append.mp hc).elim (hdigits c) (ht c)

lemma isDigit_of_mem_replicate (k : ℕ) : ∀ c ∈ List.replicate k '0', isDigit c = true :=
  fun _ hc => Decimal.isDigit_of_mem_zeros hc

/-- The point in front of the digits, with zeros between them. -/
lemma spells_pointBefore {ds : Text} {k : ℤ} (hds : isDigits ds = true) (hk : k ≤ 0) :
    Spells ('0' :: '.' :: (List.replicate (-k).toNat '0' ++ ds))
      (Decimal.value ds * 10 ^ (k - (ds.length : ℤ))) := by
  obtain ⟨hne, hdigits⟩ := isDigits_iff.mp hds
  have hfraction : isDigits (List.replicate (-k).toNat '0' ++ ds) = true :=
    isDigits_iff.mpr ⟨List.append_ne_nil_of_right_ne_nil _ hne, fun c hc =>
      (List.mem_append.mp hc).elim (isDigit_of_mem_replicate _ c) (hdigits c)⟩
  have hvalue : Decimal.value (['0'] ++ (List.replicate (-k).toNat '0' ++ ds))
      = Decimal.value ds := by
    rw [← List.append_assoc, ← List.replicate_one, List.replicate_append_replicate,
      value_zeros_append]
  have hexponent : k - (ds.length : ℤ)
      = 0 - ((List.replicate (-k).toNat '0' ++ ds).length : ℤ) := by
    rw [List.length_append, List.length_replicate]
    push_cast
    omega
  have hfront : isDigits ['0'] = true := by decide
  have hparts := spells_parts (some _) [] none hfront
    (fun _ => rfl) (fun t ht => Option.some.inj ht ▸ hfraction) (by decide) (Or.inl ⟨rfl, rfl⟩)
  rw [Option.getD_some, Option.getD_none, hvalue, ← hexponent, List.append_nil] at hparts
  exact hparts

/-- The point behind the digits, with zeros between them and one after it. -/
lemma spells_pointAfter {ds : Text} {k : ℕ} (hds : isDigits ds = true)
    (hzero : ds.head? ≠ some '0') (hlength : ds.length ≤ k) (hk : k ≤ 16) :
    Spells (ds ++ List.replicate (k - ds.length) '0' ++ ['.', '0'])
      (Decimal.value ds * 10 ^ (k - (ds.length : ℤ))) := by
  obtain ⟨hne, -⟩ := isDigits_iff.mp hds
  have hwhole := isDigits_append hds (isDigit_of_mem_replicate (k - ds.length))
  have hvalue : (Decimal.value (ds ++ List.replicate (k - ds.length) '0' ++ ['0']) : ℚ)
      * 10 ^ (0 - (1 : ℤ)) = Decimal.value ds * 10 ^ (k - (ds.length : ℤ)) := by
    have hexponent : k - (ds.length : ℤ) = ((k - ds.length : ℕ) : ℤ) := by omega
    rw [List.append_assoc, ← List.replicate_one, List.replicate_append_replicate,
      value_append_zeros, hexponent, zpow_natCast, pow_succ]
    push_cast
    norm_num
    ring
  have hparts := spells_parts (some ['0']) [] none hwhole
    (fun h => absurd (List.head?_append_of_ne_nil _ hne ▸ h) hzero)
    (fun t ht => Option.some.inj ht ▸ rfl)
    (by rw [List.length_append, List.length_replicate]; omega) (Or.inl ⟨rfl, rfl⟩)
  rw [← hvalue]
  exact hparts

/-- The point between the digits. -/
lemma spells_pointBetween {ds : Text} {k : ℕ} (hds : isDigits ds = true)
    (hzero : ds.head? ≠ some '0') (hpos : 0 < k) (hlength : k < ds.length) (hk : k ≤ 16) :
    Spells (ds.take k ++ '.' :: ds.drop k) (Decimal.value ds * 10 ^ (k - (ds.length : ℤ))) := by
  obtain ⟨hne, hdigits⟩ := isDigits_iff.mp hds
  have hwhole : isDigits (ds.take k) = true :=
    isDigits_iff.mpr ⟨List.take_eq_nil_iff.not.mpr (not_or.mpr ⟨hpos.ne', hne⟩),
      fun c hc => hdigits c (List.mem_of_mem_take hc)⟩
  have hfraction : isDigits (ds.drop k) = true :=
    isDigits_iff.mpr ⟨List.drop_eq_nil_iff.not.mpr hlength.not_ge,
      fun c hc => hdigits c (List.mem_of_mem_drop hc)⟩
  have hexponent : k - (ds.length : ℤ) = 0 - ((ds.drop k).length : ℤ) := by
    rw [List.length_drop]
    omega
  have hparts := spells_parts (some _) [] none hwhole
    (fun h => absurd (by rwa [List.head?_take, if_neg hpos.ne'] at h) hzero)
    (fun t ht => Option.some.inj ht ▸ hfraction)
    (by rw [List.length_take]; omega) (Or.inl ⟨rfl, rfl⟩)
  rw [Option.getD_some, Option.getD_none, List.take_append_drop, ← hexponent,
    List.append_nil] at hparts
  exact hparts

/-- A decimal with its point. -/
lemma spells_pointAt {ds : Text} {k : ℤ} (hds : isDigits ds = true) (hzero : ds.head? ≠ some '0')
    (hk : k ≤ 16) :
    Spells (Decimal.pointAt true ds k) (Decimal.value ds * 10 ^ (k - (ds.length : ℤ))) := by
  rw [Decimal.pointAt, if_pos rfl]
  split_ifs with hbefore hafter
  · exact spells_pointBefore hds hbefore
  · obtain ⟨n, rfl⟩ := Int.eq_ofNat_of_zero_le (not_le.mp hbefore).le
    exact spells_pointAfter hds hzero hafter (by omega)
  · obtain ⟨n, rfl⟩ := Int.eq_ofNat_of_zero_le (not_le.mp hbefore).le
    exact spells_pointBetween hds hzero (by omega) (not_le.mp hafter) (by omega)

/-- A decimal with an exponent. -/
lemma spells_withExponent {ds : Text} (e : ℤ) (hds : isDigits ds = true) :
    Spells (Decimal.withExponent ds e) (Decimal.value ds * 10 ^ (e + 1 - (ds.length : ℤ))) := by
  obtain ⟨hne, hdigits⟩ := isDigits_iff.mp hds
  obtain ⟨c, rest, rfl⟩ := List.exists_cons_of_ne_nil hne
  rw [List.forall_mem_cons] at hdigits
  have hc : isDigits [c] = true :=
    isDigits_iff.mpr ⟨List.cons_ne_nil _ _, List.forall_mem_singleton.mpr hdigits.1⟩
  have hlength : [c].length ≤ 16 := by rw [List.length_singleton]; decide
  have hread := readExponent?_digits e
  cases rest with
  | nil =>
      have hparts := spells_parts none _ _ hc (fun _ => rfl) (fun t h => nomatch h)
        hlength (Or.inr ⟨_, e, rfl, hread, rfl⟩)
      have hexponent : e + 1 - ([c].length : ℤ) = e - (([] : Text).length : ℤ) := by
        simp only [List.length_singleton, List.length_nil]
        omega
      rw [hexponent]
      exact hparts
  | cons d rest =>
      have hrest : isDigits (d :: rest) = true :=
        isDigits_iff.mpr ⟨List.cons_ne_nil _ _, hdigits.2⟩
      have hparts := spells_parts (some _) _ _ hc (fun _ => rfl)
        (fun t h => Option.some.inj h ▸ hrest) hlength (Or.inr ⟨_, e, rfl, hread, rfl⟩)
      have hexponent : e + 1 - ((c :: d :: rest).length : ℤ) = e - ((d :: rest).length : ℤ) := by
        simp only [List.length_cons]
        omega
      rw [hexponent]
      exact hparts

/-- A decimal is spelled as itself. -/
lemma spells_layout (hd : 0 < d.coefficient) : Spells (portable.layout d) d.toRat := by
  have hds := Decimal.isDigits_digits d.coefficient
  have hzero := Decimal.head?_digits_ne hd.ne'
  have hsize : d.toRat = Decimal.value (digits d.coefficient)
      * 10 ^ (((digits d.coefficient).length : ℤ) + d.exponent
        - ((digits d.coefficient).length : ℤ)) := by
    rw [Decimal.value_digits, add_sub_cancel_left, toRat]
  rw [Decimal.Notation.layout]
  split
  case isTrue hpositional =>
    have hk : ((digits d.coefficient).length : ℤ) + d.exponent ≤ 16 := by
      simp only [portable, Bool.and_eq_true, decide_eq_true_eq] at hpositional
      omega
    rw [hsize]
    exact spells_pointAt hds hzero hk
  case isFalse =>
    have hexponent := spells_withExponent
      (((digits d.coefficient).length : ℤ) + d.exponent - 1) hds
    rw [Int.sub_add_cancel] at hexponent
    rw [hsize]
    exact hexponent

/-! ### Floating-point numbers -/

/-- A text that is spelled as a number of such a size is read, with or without a minus. -/
lemma Spells.isSome_toFloat? (h : Spells s q) (hq : q ≤ greatestSize) (negative : Bool) :
    ((splitNumeric? (minus negative ++ s)).bind Spelled.toFloat?).isSome = true := by
  obtain ⟨n, hsplit, hfront, rfl⟩ := h
  have hsigned : ({ n with negative } : Spelled).size ≤ greatestSize := hq
  rw [hsplit, Option.bind_some]
  exact Spelled.isSome_toFloat? hfront hsigned

/-- The three greatest numbers are read. -/
lemma isSome_toFloat?_greatest : ∀ m ∈ [2 ^ 53 - 3, 2 ^ 53 - 2, 2 ^ 53 - 1], ∀ negative : Bool,
    ((splitNumeric? (minus negative
      ++ portable.layout (Binary.shortest .toEven ⟨m, 971⟩).dropZeros)).bind
        Spelled.toFloat?).isSome = true := by
  decide +kernel

/-- All others leave room for half a unit. -/
lemma half_unit_le_greatestSize {m : ℕ} {e : ℤ} (h : Binary64.Digits m e) (he : e < 972)
    (hother : e = 971 → m < 2 ^ 53 - 3) : ((m : ℚ) + 1 / 2) * 2 ^ e ≤ greatestSize := by
  rw [greatestSize_eq]
  rcases eq_or_ne e 971 with rfl | hsmall
  · refine mul_le_mul_of_nonneg_right ?_ (Binary64.two_zpow_pos _).le
    have hlt := hother rfl
    have hle : ((m + 4 : ℕ) : ℚ) ≤ (2 ^ 53 : ℕ) := Nat.cast_le.mpr (by omega)
    push_cast at hle
    linarith
  · have hle : ((m + 1 : ℕ) : ℚ) ≤ (2 ^ 53 : ℕ) := by exact_mod_cast h.lt
    push_cast at hle
    have hunit : (2 : ℚ) ^ e * 2 ≤ 2 ^ (971 : ℤ) := by
      have hnext : (2 : ℚ) ^ (e + 1) ≤ 2 ^ (971 : ℤ) := Binary64.two_zpow_le (by omega)
      rwa [zpow_add_one₀ (by norm_num)] at hnext
    calc ((m : ℚ) + 1 / 2) * 2 ^ e ≤ (2 ^ 53 - 7 / 2) * 2 * 2 ^ e :=
          mul_le_mul_of_nonneg_right (by linarith) (Binary64.two_zpow_pos e).le
      _ = (2 ^ 53 - 7 / 2) * (2 ^ e * 2) := by ring
      _ ≤ _ := mul_le_mul_of_nonneg_left hunit (by norm_num)

/-- What is written of a finite number is read. -/
lemma isSome_toFloat?_render (hx : x.isFinite = true) :
    ((splitNumeric? (portable.render x)).bind Spelled.toFloat?).isSome = true := by
  have hsign : ∀ sign, ∃ negative, Decimal.signText sign = minus negative := by
    rintro (_ | _)
    · exact ⟨true, rfl⟩
    · exact ⟨false, rfl⟩
  rcases Binary64.zero_or_digits hx with ⟨sign, hu⟩ | ⟨sign, m, e, hm, hu, hdigits, he⟩ <;>
    obtain ⟨negative, hminus⟩ := hsign sign <;> rw [Decimal.Notation.render, hu] <;>
    simp only [hminus]
  · cases negative <;> decide +kernel
  · by_cases hgreatest : e = 971 ∧ 2 ^ 53 - 3 ≤ m
    · -- half a unit above the three largest numbers leaves the range: these are evaluated
      obtain ⟨rfl, hle⟩ := hgreatest
      have hlt := hdigits.lt
      have hmem : m ∈ [2 ^ 53 - 3, 2 ^ 53 - 2, 2 ^ 53 - 1] := by
        simp only [List.mem_cons, List.not_mem_nil, or_false]
        omega
      exact isSome_toFloat?_greatest m hmem negative
    · -- below them, the shortest decimal stays in the range
      obtain ⟨hpos, hle⟩ := Binary.bounds_of_shortest .toEven (x := ⟨m, e⟩) hm
      rw [← Decimal.toRat_dropZeros] at hpos hle
      have hspells := spells_layout (Decimal.toRat_pos_iff.mp hpos)
      have hroom := half_unit_le_greatestSize hdigits he fun hlast =>
        not_le.mp fun hlarge => hgreatest ⟨hlast, hlarge⟩
      exact hspells.isSome_toFloat? (hle.trans hroom) negative

/-- A floating-point number is written. -/
lemma written_ofFloat (x : Float) : Written (ofFloat x) := by
  rw [ofFloat]
  split_ifs with hx
  · refine written_number (Decimal.all_isNumberChar_render portable x) ?_
    exact Option.isSome_of_isSome_bind (isSome_toFloat?_render hx)
  · exact .null

/-- Some number is read back exactly if it is finite. -/
lemma isSome_reread (x : Float) : (reread x).isSome = x.isFinite := by
  rw [reread, ofFloat]
  split_ifs with hx
  · rw [hx]
    exact isSome_toFloat?_render hx
  · rw [Bool.not_eq_true _ |>.mp hx]
    rfl

end Json

end Grading
