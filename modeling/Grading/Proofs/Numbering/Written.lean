/-
How problem numbers are written.

* `WritesWhole`, `readLimited?_eq_some_iff`: digits for a number that a problem can have;
* `ProblemNumber.Spells`, `ofText?_eq_some_iff`: a text is read as the problem number that it
  spells, blanks around it aside;
* `ProblemNumber.Regular`, `spells_render`: a problem number without a part, or with a lower-case
  letter, is spelled as it is written;
* `ofLine?_spelled`: so is the number of a line.
-/
import Grading.Numbering.Basic
import Grading.Proofs.Decimal.Whole
import Grading.Proofs.Key.Numbered

namespace Grading

open Decimal (isDigit isDigits isDigits_iff)

variable {s t : Text} {n : Nat} {c : Char} {p q : ProblemNumber}

/-! ### Letters -/

/-- What holds of the letters among the first characters holds of all ASCII letters. -/
lemma of_isAlpha {P : Char → Prop}
    (h : ∀ n < 128, (Char.ofNat n).isAlpha = true → P (Char.ofNat n)) (hc : c.isAlpha = true) :
    P c := by
  have hrange := toNat_of_isAlphanum (c := c) (by rw [Char.isAlphanum, hc, Bool.true_or])
  have hletter := h c.toNat (by omega)
  rw [Char.ofNat_toNat] at hletter
  exact hletter hc

lemma isDigit_eq_false_of_isAlpha (h : c.isAlpha = true) : isDigit c = false :=
  of_isAlpha (P := fun c => isDigit c = false) (by decide) h

lemma isLower_toLower (h : c.isAlpha = true) : c.toLower.isLower = true :=
  of_isAlpha (P := fun c => c.toLower.isLower = true) (by decide) h

lemma isAlpha_of_isLower (h : c.isLower = true) : c.isAlpha = true :=
  (Bool.or_eq_true _ _).mpr (Or.inr h)

lemma toLower_of_isLower (h : c.isLower = true) : c.toLower = c :=
  of_isAlpha (P := fun c => c.isLower = true → c.toLower = c) (by decide) (isAlpha_of_isLower h) h

/-! ### Numbers -/

/-- Digits for a number that a problem can have. -/
structure WritesWhole (s : Text) (n : Nat) : Prop where
  digits : isDigits s = true
  value : Decimal.value s = n
  le : n ≤ ProblemNumber.greatest

lemma writesWhole_digits (h : n ≤ ProblemNumber.greatest) : WritesWhole (Decimal.digits n) n :=
  ⟨Decimal.isDigits_digits n, Decimal.value_digits n, h⟩

lemma readLimited?_eq_some_iff : ProblemNumber.readLimited? s = some n ↔ WritesWhole s n := by
  rw [ProblemNumber.readLimited?, Decimal.readNat?, Option.filter_eq_some_iff]
  constructor
  · rintro ⟨hread, hle⟩
    split at hread
    case isTrue hdigits => exact ⟨hdigits, Option.some.inj hread, of_decide_eq_true hle⟩
    case isFalse => cases hread
  · rintro ⟨hdigits, hvalue, hle⟩
    exact ⟨by rw [if_pos hdigits, hvalue], decide_eq_true hle⟩

namespace ProblemNumber

/-! ### Problem numbers -/

/-- The texts of problem numbers: digits, and then at most one letter. -/
inductive Spells : Text → ProblemNumber → Prop
  | whole {s : Text} {n : Nat} (digits : WritesWhole s n) : Spells s ⟨n, none⟩
  | part {s : Text} {n : Nat} {c : Char} (digits : WritesWhole s n) (letter : c.isAlpha = true) :
      Spells (s ++ [c]) ⟨n, some c.toLower⟩

lemma spells_part (h : WritesWhole s n) (hc : c.isLower = true) :
    Spells (s ++ [c]) ⟨n, some c⟩ := by
  have hspells := Spells.part h (isAlpha_of_isLower hc)
  rwa [toLower_of_isLower hc] at hspells

/-- A text is read as the problem number that it spells, blanks around it aside. -/
lemma ofText?_eq_some_iff : ofText? s = some p ↔ Spells s.trim p := by
  rw [ofText?, Option.bind_eq_bind, Option.bind_eq_some_iff]
  simp only [readLimited?_eq_some_iff]
  constructor
  · rintro ⟨n, hn, hp⟩
    have hsplit := List.takeWhile_append_dropWhile (p := isDigit) (l := s.trim)
    split at hp
    case h_1 hrest =>
      obtain rfl := Option.some.inj hp
      rw [hrest, List.append_nil] at hsplit
      exact hsplit ▸ .whole hn
    case h_2 c hrest =>
      split at hp
      case isTrue hletter =>
        obtain rfl := Option.some.inj hp
        rw [hrest] at hsplit
        exact hsplit ▸ .part hn hletter
      case isFalse => cases hp
    case h_3 => cases hp
  · -- the digits that are spelled are all those in front
    intro h
    generalize s.trim = body at h
    cases h with
    | whole hdigits =>
        have hall := (isDigits_iff.mp hdigits.digits).2
        rw [List.takeWhile_eq_self_iff.mpr hall, List.dropWhile_eq_nil_iff.mpr hall]
        exact ⟨_, hdigits, rfl⟩
    | @part t n c hdigits hletter =>
        have hall := (isDigits_iff.mp hdigits.digits).2
        have hc := isDigit_eq_false_of_isAlpha hletter
        rw [List.takeWhile_append_of_pos hall, List.dropWhile_append_of_pos hall,
          List.takeWhile_cons_of_neg (by rw [hc]; decide), List.append_nil,
          List.dropWhile_cons_of_neg (by rw [hc]; decide)]
        exact ⟨n, hdigits, if_pos hletter⟩

/-- A problem number can be the number of a line. -/
lemma Spells.isLabel (h : Spells s p) : isLabel s = true := by
  have halphanum : ∀ {t m}, WritesWhole t m → t ≠ [] ∧ ∀ c ∈ t, c.isAlphanum = true := by
    intro t m ht
    refine ⟨(isDigits_iff.mp ht.digits).1, fun c hc => ?_⟩
    have hdigit : c.isDigit = true := (isDigits_iff.mp ht.digits).2 c hc
    rw [Char.isAlphanum, hdigit, Bool.or_true]
  rw [isLabel_iff]
  cases h with
  | whole hdigits => exact halphanum hdigits
  | part hdigits hletter =>
      refine ⟨by simp, fun c hc => ?_⟩
      rcases List.mem_append.mp hc with hc | hc
      · exact (halphanum hdigits).2 c hc
      · rw [List.mem_singleton.mp hc, Char.isAlphanum, hletter, Bool.true_or]

lemma Spells.trim_eq (h : Spells s p) : s.trim = s := (tight_of_isLabel h.isLabel).trim_eq

lemma Spells.notMem (h : Spells s p) (hc : c.isAlphanum = false) : c ∉ s := by
  intro hmem
  rw [(isLabel_iff.mp h.isLabel).2 c hmem] at hc
  cases hc

lemma Spells.ofText? (h : Spells s p) : ofText? s = some p := by
  rw [ofText?_eq_some_iff, h.trim_eq]
  exact h

/-! ### Printing -/

/-- A number that a problem can have, with no part or a lower-case letter as its part. -/
structure Regular (p : ProblemNumber) : Prop where
  le : p.number ≤ greatest
  part : ∀ c ∈ p.part, c.isLower = true

instance (p : ProblemNumber) : Decidable p.Regular :=
  decidable_of_iff (p.number ≤ greatest ∧ p.part.all Char.isLower = true)
    ⟨fun h => ⟨h.1, (Option.all_eq_true _ _).mp h.2⟩,
      fun h => ⟨h.le, (Option.all_eq_true _ _).mpr h.part⟩⟩

/-- What is read is regular. -/
lemma Spells.regular (h : Spells s p) : p.Regular := by
  cases h with
  | whole hdigits => exact ⟨hdigits.le, by simp⟩
  | part hdigits hletter => exact ⟨hdigits.le, by simpa using isLower_toLower hletter⟩

/-- A regular problem number is spelled as it is written. -/
lemma spells_render (h : p.Regular) : Spells p.render p := by
  obtain ⟨n, part⟩ := p
  cases part with
  | none =>
      rw [render, Option.toList_none, List.append_nil]
      exact .whole (writesWhole_digits h.le)
  | some c => exact spells_part (writesWhole_digits h.le) (h.part c rfl)

/-! ### Lines -/

lemma ofLine?_trim (line : Text) : ofLine? line.trim = ofLine? line := by
  simp only [ofLine?, splitNumber, numbered?, Text.trim_trim]

/-- A line with a problem number in front of its first point has that number. -/
lemma ofLine?_spelled (h : Spells s p) (t : Text) : ofLine? (s ++ '.' :: t) = some p := by
  rw [ofLine?, splitNumber, numbered?_label_append h.isLabel]
  exact h.ofText?

end ProblemNumber

end Grading
