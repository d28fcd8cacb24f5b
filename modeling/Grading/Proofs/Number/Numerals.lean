/-
Which texts write numbers.

* `Numeral.Proper`, `Numeral.render`: numerals with digits where digits belong, and their texts;
* `Numeral.ofText?_eq_some_iff`: a text is read as the proper numeral whose text it is;
* `WritesNumber`, `readNumber?_eq_some_iff`: a text writes the number that is read from it.
-/
import Grading.Number.Numeral
import Grading.Proofs.Decimal.Whole
import Grading.Proofs.Key.Numbered

namespace Grading

open Decimal (isDigit isDigits isDigits_iff)

variable {s : Text} {x : Float} {n : Numeral} {negative : Bool}

namespace Numeral

/-- Digits stand in front of the point, and behind it if there is one. -/
structure Proper (n : Numeral) : Prop where
  whole : isDigits n.whole = true
  fraction : n.fraction = [] ∨ isDigits n.fraction = true

instance (n : Numeral) : Decidable n.Proper :=
  decidable_of_iff (isDigits n.whole = true ∧ (n.fraction = [] ∨ isDigits n.fraction = true))
    ⟨fun h => ⟨h.1, h.2⟩, fun h => ⟨h.whole, h.fraction⟩⟩

/-- The numeral as it is written without its sign. -/
def unsigned (n : Numeral) : Text :=
  if n.fraction = [] then n.whole else n.whole ++ '.' :: n.fraction

/-- The numeral as it is written. -/
def render (n : Numeral) : Text := if n.negative then '-' :: n.unsigned else n.unsigned

lemma notMem_of_isDigits {c : Char} (hs : isDigits s = true) (hc : isDigit c = false) : c ∉ s := by
  intro hmem
  rw [(isDigits_iff.mp hs).2 c hmem] at hc
  cases hc

/-- A numeral does not start with a minus behind its sign. -/
lemma Proper.head?_unsigned (h : n.Proper) : n.unsigned.head? ≠ some '-' := by
  have hhead : n.unsigned.head? = n.whole.head? := by
    rw [unsigned]
    split
    · rfl
    · exact List.head?_append_of_ne_nil _ (isDigits_iff.mp h.whole).1
  rw [hhead]
  intro hminus
  exact notMem_of_isDigits h.whole (by decide) (List.mem_of_mem_head? hminus)

/-- A numeral is written with digits, a minus and a point. -/
lemma Proper.mem_render {c : Char} (h : n.Proper) (hc : c ∈ n.render) :
    isDigit c = true ∨ c = '.' ∨ c = '-' := by
  have hunsigned : c ∈ n.unsigned → isDigit c = true ∨ c = '.' := by
    rw [unsigned]
    rcases h.fraction with hnil | hfraction
    · rw [if_pos hnil]
      exact fun hc => Or.inl ((isDigits_iff.mp h.whole).2 c hc)
    · rw [if_neg (isDigits_iff.mp hfraction).1, List.mem_append, List.mem_cons]
      rintro (hc | rfl | hc)
      · exact Or.inl ((isDigits_iff.mp h.whole).2 c hc)
      · exact Or.inr rfl
      · exact Or.inl ((isDigits_iff.mp hfraction).2 c hc)
  rw [render] at hc
  split at hc
  case isTrue =>
    rcases List.mem_cons.mp hc with rfl | hc
    · exact Or.inr (Or.inr rfl)
    · exact (hunsigned hc).imp_right Or.inl
  case isFalse => exact (hunsigned hc).imp_right Or.inl

lemma ofUnsigned?_eq_some_iff :
    ofUnsigned? negative s = some n ↔ n.negative = negative ∧ n.Proper ∧ n.unsigned = s := by
  rw [ofUnsigned?]
  constructor
  · intro h
    split at h
    case h_1 =>
      split at h
      case isTrue hs =>
        obtain rfl := Option.some.inj h
        exact ⟨rfl, ⟨hs, Or.inl rfl⟩, rfl⟩
      case isFalse => cases h
    case h_2 whole fraction hcut =>
      split at h
      case isTrue hparts =>
        rw [Bool.and_eq_true] at hparts
        obtain rfl := Option.some.inj h
        obtain ⟨rfl, -⟩ := Text.cut?_eq_some_iff.mp hcut
        exact ⟨rfl, ⟨hparts.1, Or.inr hparts.2⟩, if_neg (isDigits_iff.mp hparts.2).1⟩
      case isFalse => cases h
  · rintro ⟨rfl, hn, rfl⟩
    obtain ⟨negative, whole, fraction⟩ := n
    have hwhole : '.' ∉ whole := notMem_of_isDigits hn.whole (by decide)
    rcases hn.fraction with rfl | hfraction
    · rw [unsigned, if_pos rfl, Text.cut?_eq_none hwhole]
      exact if_pos hn.whole
    · rw [unsigned, if_neg (isDigits_iff.mp hfraction).1, Text.cut?_append_cons hwhole]
      exact if_pos (Bool.and_eq_true _ _ ▸ ⟨hn.whole, hfraction⟩)

/-- A text is read as the proper numeral whose text it is. -/
lemma ofText?_eq_some_iff : ofText? s = some n ↔ n.Proper ∧ n.render = s := by
  rw [ofText?.eq_def, render]
  split
  case h_1 s =>
    rw [ofUnsigned?_eq_some_iff]
    constructor
    · rintro ⟨hnegative, hn, rfl⟩
      exact ⟨hn, if_pos hnegative⟩
    · rintro ⟨hn, hs⟩
      split at hs
      case isTrue hnegative => exact ⟨hnegative, hn, (List.cons.inj hs).2⟩
      case isFalse => exact absurd (hs ▸ rfl) hn.head?_unsigned
  case h_2 s hminus =>
    rw [ofUnsigned?_eq_some_iff]
    constructor
    · rintro ⟨hnegative, hn, rfl⟩
      exact ⟨hn, if_neg (by simp [hnegative])⟩
    · rintro ⟨hn, hs⟩
      split at hs
      case isTrue => exact absurd hs.symm (hminus _)
      case isFalse hnegative => exact ⟨Bool.not_eq_true _ ▸ hnegative, hn, hs⟩

end Numeral

/-! ### Numbers -/

/-- Whether the text writes the number: an optional minus, digits, and optionally a point with more
digits, for the floating-point number nearest to them. -/
def WritesNumber (s : Text) (x : Float) : Prop :=
  ∃ n : Numeral, n.Proper ∧ n.render = s ∧ n.toFloat = x

lemma readNumber?_eq_some_iff : readNumber? s = some x ↔ WritesNumber s x := by
  rw [readNumber?, Option.map_eq_some_iff, WritesNumber]
  simp only [Numeral.ofText?_eq_some_iff, and_assoc]

lemma readNumber?_eq_none_iff : readNumber? s = none ↔ ∀ x, ¬ WritesNumber s x := by
  simp only [Option.eq_none_iff_forall_ne_some, ne_eq, readNumber?_eq_some_iff]

lemma isNumeral_iff : isNumeral s = true ↔ ∃ x, WritesNumber s x := by
  simp only [← readNumber?_eq_some_iff, ← Option.isSome_iff_exists, readNumber?, Option.isSome_map]
  rfl

instance (s : Text) : Decidable (∃ x, WritesNumber s x) := decidable_of_iff _ isNumeral_iff

end Grading
