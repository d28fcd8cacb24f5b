/-
Which texts are fractions, and what becomes of them.

* `IsFraction`: a text with a single slash between two signed decimals, blanks around these aside;
* `fractionParts?_eq_some_iff_isFraction`: those are the texts that are read as fractions;
* `quotient?_recognizes`: numbers and fractions are recognized exactly, a fraction is converted
  unless it divides by zero, and the quotient is shown as a decimal exactly if it is finite in
  hundredths;
* `quotient?_endless`: the quotient of a finite number by one is shown as a word.
-/
import Grading.Proofs.Number.Characters
import Grading.Proofs.Number.Pattern
import Grading.Proofs.Number.Places

namespace Grading

open Decimal (powerOfTen)

variable {s p q : Text} {x y : Float}

/-! ### Fractions -/

/-- A text with a single slash, which stands between two signed decimals, each possibly with blanks
around it. -/
structure IsFraction (s p q : Text) : Prop where
  /-- The slash stands between the numerator and the denominator. -/
  eq : s = p ++ '/' :: q
  /-- It is the only one. -/
  single : s.count '/' = 1
  /-- The numerator is a signed decimal. -/
  numerator : p.trim ∈ decimalPattern.matches'
  /-- So is the denominator. -/
  denominator : q.trim ∈ decimalPattern.matches'

lemma isSome_readNumber?_iff : (readNumber? s).isSome = true ↔ s ∈ decimalPattern.matches' := by
  rw [readNumber?, Option.isSome_map, ← isNumeral_iff_mem_decimalPattern, isNumeral]

/-- A number holds no slash, and neither does it with blanks around it. -/
lemma slash_notMem_of_trim (h : readNumber? q.trim = some y) : '/' ∉ q := by
  intro hmem
  exact notMem_of_readNumber? h (by decide) (by decide)
    (Text.mem_trim_of_not_blank hmem (by decide))

/-- The single slash of a fraction is the first one. -/
lemma IsFraction.cut?_eq (h : IsFraction s p q) : s.cut? '/' = some (p, q) := by
  have hsingle := h.single
  rw [h.eq, List.count_append, List.count_cons_self] at hsingle
  refine Text.cut?_eq_some_iff.mpr ⟨h.eq, List.count_eq_zero.mp ?_⟩
  omega

/-- Fractions are the texts that are read as such. -/
lemma fractionParts?_eq_some_iff_isFraction :
    fractionParts? s = some (x, y)
      ↔ ∃ p q, IsFraction s p q ∧ readNumber? p.trim = some x ∧ readNumber? q.trim = some y := by
  rw [fractionParts?_eq_some_iff]
  constructor
  · rintro ⟨p, q, hcut, hx, hy⟩
    obtain ⟨hs, hp⟩ := Text.cut?_eq_some_iff.mp hcut
    refine ⟨p, q, ⟨hs, ?_, ?_, ?_⟩, hx, hy⟩
    · rw [hs, List.count_append, List.count_cons_self, List.count_eq_zero.mpr hp,
        List.count_eq_zero.mpr (slash_notMem_of_trim hy)]
    · exact isSome_readNumber?_iff.mp (by rw [hx]; rfl)
    · exact isSome_readNumber?_iff.mp (by rw [hy]; rfl)
  · rintro ⟨p, q, h, hx, hy⟩
    exact ⟨p, q, h.cut?_eq, hx, hy⟩

lemma exists_isFraction_iff :
    (∃ p q, IsFraction s p q) ↔ ∃ x y, fractionParts? s = some (x, y) := by
  constructor
  · rintro ⟨p, q, h⟩
    obtain ⟨x, hx⟩ := Option.isSome_iff_exists.mp (isSome_readNumber?_iff.mpr h.numerator)
    obtain ⟨y, hy⟩ := Option.isSome_iff_exists.mp (isSome_readNumber?_iff.mpr h.denominator)
    exact ⟨x, y, fractionParts?_eq_some_iff_isFraction.mpr ⟨p, q, h, hx, hy⟩⟩
  · rintro ⟨x, y, h⟩
    obtain ⟨p, q, h, -⟩ := fractionParts?_eq_some_iff_isFraction.mp h
    exact ⟨p, q, h⟩

/-! ### Quotients -/

lemma quotient?_of_eq_none (h : fractionParts? s = none) : quotient? s = .ok none := by
  rw [quotient?, h]

lemma quotient?_of_eq_some (h : fractionParts? s = some (x, y)) :
    quotient? s = if y == 0 then .error ⟨s⟩ else .ok (some (twoPlaces (x / y))) := by
  rw [quotient?, h]

/-- Only what is no fraction is left alone. -/
lemma quotient?_eq_ok_none_iff : quotient? s = .ok none ↔ ¬ ∃ p q, IsFraction s p q := by
  rw [exists_isFraction_iff]
  cases hparts : fractionParts? s with
  | none => exact iff_of_true (quotient?_of_eq_none hparts) (by rintro ⟨x, y, ⟨⟩⟩)
  | some parts =>
      obtain ⟨x, y⟩ := parts
      refine iff_of_false ?_ (not_not_intro ⟨x, y, rfl⟩)
      rw [quotient?_of_eq_some hparts]
      split <;> rintro ⟨⟩

/-- Only a fraction with the denominator zero is a fault, and the fault tells the whole of it. -/
lemma quotient?_eq_error_iff {fault : DivisionByZero} :
    quotient? s = .error fault
      ↔ fault.fraction = s
        ∧ ∃ p q y, IsFraction s p q ∧ readNumber? q.trim = some y ∧ (y == 0) = true := by
  constructor
  · intro h
    cases hparts : fractionParts? s with
    | none =>
        rw [quotient?_of_eq_none hparts] at h
        cases h
    | some parts =>
        obtain ⟨x, y⟩ := parts
        obtain ⟨p, q, hfraction, -, hy⟩ := fractionParts?_eq_some_iff_isFraction.mp hparts
        rw [quotient?_of_eq_some hparts] at h
        split at h
        case isTrue hzero =>
          obtain rfl := Except.error.inj h
          exact ⟨rfl, p, q, y, hfraction, hy, hzero⟩
        case isFalse => cases h
  · rintro ⟨rfl, p, q, y, hfraction, hy, hzero⟩
    obtain ⟨x, hx⟩ := Option.isSome_iff_exists.mp (isSome_readNumber?_iff.mpr hfraction.numerator)
    have hparts := fractionParts?_eq_some_iff_isFraction.mpr ⟨p, q, hfraction, hx, hy⟩
    rw [quotient?_of_eq_some hparts, if_pos hzero]

/-- A quotient is shown without slashes and blanks. -/
lemma notMem_twoPlaces (x : Float) :
    '/' ∉ twoPlaces x ∧ ∀ c ∈ twoPlaces x, Text.isBlank c = false := by
  have hchars := List.all_eq_true.mp (all_isNumberChar_twoPlaces x)
  refine ⟨fun hslash => ?_, fun c hc => Decimal.isBlank_eq_false_of_isNumberChar (hchars c hc)⟩
  exact absurd (hchars _ hslash) (by decide)

/-- **Numbers and fractions are recognized exactly**: a text is read as a number exactly if the
pattern of signed decimals matches it. It is left alone exactly if it is no fraction, and a fault
exactly if it is one with a denominator that is read as zero. Every other fraction is converted to a
text without slashes and blanks, and this is a signed decimal exactly if the quotient is finite in
hundredths. -/
theorem quotient?_recognizes (s : Text) :
    ((readNumber? s).isSome = true ↔ s ∈ decimalPattern.matches')
      ∧ (quotient? s = .ok none ↔ ¬ ∃ p q, IsFraction s p q)
      ∧ (∀ fault, quotient? s = .error fault ↔ fault.fraction = s
          ∧ ∃ p q y, IsFraction s p q ∧ readNumber? q.trim = some y ∧ (y == 0) = true)
      ∧ ∀ p q x y, IsFraction s p q → readNumber? p.trim = some x → readNumber? q.trim = some y →
          (y == 0) = false →
          ∃ t, quotient? s = .ok (some t) ∧ '/' ∉ t ∧ (∀ c ∈ t, Text.isBlank c = false)
            ∧ (t ∈ decimalPattern.matches' ↔ (x / y * 100).isFinite = true) := by
  refine ⟨isSome_readNumber?_iff, quotient?_eq_ok_none_iff, fun _ => quotient?_eq_error_iff, ?_⟩
  intro p q x y hfraction hx hy hzero
  have hparts := fractionParts?_eq_some_iff_isFraction.mpr ⟨p, q, hfraction, hx, hy⟩
  obtain ⟨hslash, hblank⟩ := notMem_twoPlaces (x / y)
  refine ⟨twoPlaces (x / y), ?_, hslash, hblank, ?_⟩
  · rw [quotient?_of_eq_some hparts, if_neg (by rw [hzero]; decide)]
  · rw [← isNumeral_iff_mem_decimalPattern, isNumeral_twoPlaces]

/-- Two thirds with a sign, a place and blanks, which are shown as a decimal. -/
theorem quotient?_recognizes_two_thirds :
    let s := " -2.0 / 3".toList
    IsFraction s " -2.0 ".toList " 3".toList ∧ quotient? s = .ok (some "-0.67".toList)
      ∧ "-0.67".toList ∈ decimalPattern.matches' := by
  intro s
  have hnumerator : readNumber? (Text.trim " -2.0 ".toList) = some (-2) := by decide +kernel
  have hdenominator : readNumber? (Text.trim " 3".toList) = some 3 := by decide +kernel
  have hfraction : IsFraction s " -2.0 ".toList " 3".toList :=
    ⟨rfl, by decide, isSome_readNumber?_iff.mp (by rw [hnumerator]; rfl),
      isSome_readNumber?_iff.mp (by rw [hdenominator]; rfl)⟩
  obtain ⟨-, -, -, hconverted⟩ := quotient?_recognizes s
  obtain ⟨t, ht, -, -, hdecimal⟩ :=
    hconverted _ _ _ _ hfraction hnumerator hdenominator (by decide)
  have hshown : quotient? s = .ok (some "-0.67".toList) := by decide +kernel
  obtain rfl : t = "-0.67".toList := Option.some.inj (Except.ok.inj (ht.symm.trans hshown))
  exact ⟨hfraction, hshown, hdecimal.mpr (by decide +kernel)⟩

/-- A one with three hundred and seven zeros is a finite number, and over one it is a fraction, but
in hundredths it is infinite, so that it is shown as a word. -/
theorem quotient?_endless :
    let s := powerOfTen 307 ++ "/1".toList
    IsFraction s (powerOfTen 307) "1".toList
      ∧ (∃ x, readNumber? (powerOfTen 307) = some x ∧ x.isFinite = true)
      ∧ quotient? s = .ok (some "inf".toList) ∧ "inf".toList ∉ decimalPattern.matches' := by
  intro s
  have htrim : Text.trim (powerOfTen 307) = powerOfTen 307 := by decide +kernel
  have hfinite : (readNumber? (powerOfTen 307)).map Float.isFinite = some true := by decide +kernel
  obtain ⟨x, hx, hxfinite⟩ := Option.map_eq_some_iff.mp hfinite
  refine ⟨⟨rfl, by decide +kernel, isSome_readNumber?_iff.mp ?_, isSome_readNumber?_iff.mp ?_⟩,
    ⟨x, hx, hxfinite⟩, by decide +kernel, ?_⟩
  · rw [htrim, hx]
    rfl
  · decide
  · rw [← isNumeral_iff_mem_decimalPattern]
    decide

end Grading
