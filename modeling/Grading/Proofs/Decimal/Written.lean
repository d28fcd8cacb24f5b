/-
The characters that numbers are written with.

* `all_isDigit_digits`: a whole number is written with digits only;
* `mem_layout`, `mem_render`: a floating-point number is written with digits, signs, a point and an
  exponent, or with a word if it is not finite;
* `isNumberChar`, `all_isNumberChar_render`, `all_isNumberChar_fixed`, `all_isNumberChar_points`:
  all of these characters together, in every notation, with a given number of places, and as points;
* `isBlank_eq_false_of_isNumberChar`: none of which is a blank.
-/
import Grading.Number.Places
import Grading.Proofs.Key.Numbered
import Mathlib.Data.Bool.AllAny

namespace Grading

namespace Decimal

variable {c : Char}

/-! ### Digits -/

lemma isDigit_digitChar {d : Nat} (h : d < 10) : isDigit (digitChar d) = true := by
  revert d
  decide

lemma all_isDigit_digitsUp (n : Nat) : (digitsUp n).all isDigit = true := by
  induction n using digitsUp.induct with
  | case1 n hn => rw [digitsUp, if_pos hn, List.all_cons, isDigit_digitChar hn, List.all_nil]; rfl
  | case2 n hn ih =>
      rw [digitsUp, if_neg hn, List.all_cons, isDigit_digitChar (Nat.mod_lt n (by decide)), ih]
      rfl

/-- A whole number is written with digits only. -/
lemma all_isDigit_digits (n : Nat) : (digits n).all isDigit = true := by
  rw [digits, List.all_reverse, all_isDigit_digitsUp]

lemma isDigit_of_mem_digits {n : Nat} (h : c ∈ digits n) : isDigit c = true :=
  List.all_eq_true.mp (all_isDigit_digits n) c h

lemma isDigit_of_mem_zeros {n : Nat} (h : c ∈ List.replicate n '0') : isDigit c = true := by
  rw [List.eq_of_mem_replicate h]
  decide

/-- Zeros in front are digits too. -/
lemma isDigit_of_mem_padded {width n : Nat} (h : c ∈ padded width n) : isDigit c = true := by
  rw [padded, List.mem_append] at h
  exact h.elim isDigit_of_mem_zeros isDigit_of_mem_digits

/-! ### Floating-point numbers -/

/-- The characters around the digits of a number: signs, a point and the mark of an exponent. -/
def numberMarks : Text := "-+.e".toList

/-- Placing the point adds nothing but zeros and the point. -/
lemma mem_pointAt {ds : Text} (hds : ∀ c ∈ ds, isDigit c = true) {pointZero : Bool} {k : Int}
    (h : c ∈ pointAt pointZero ds k) : isDigit c = true ∨ c = '.' := by
  have hzero : c ∈ (if pointZero then ['.', '0'] else []) → isDigit c = true ∨ c = '.' := by
    intro hc
    cases pointZero with
    | false => simp at hc
    | true =>
        rcases List.mem_cons.mp hc with rfl | hc
        · exact Or.inr rfl
        · rw [List.mem_singleton.mp hc]
          exact Or.inl (by decide)
  rw [pointAt] at h
  split at h
  case isTrue =>
    -- the point before the digits
    simp only [List.cons_append, List.nil_append, List.mem_cons, List.mem_append] at h
    rcases h with rfl | rfl | h | h
    · exact Or.inl (by decide)
    · exact Or.inr rfl
    · exact Or.inl (isDigit_of_mem_zeros h)
    · exact Or.inl (hds c h)
  case isFalse =>
    split at h
    case isTrue =>
      -- the point behind them, with zeros in between
      rw [List.mem_append, List.mem_append] at h
      rcases h with (h | h) | h
      · exact Or.inl (hds c h)
      · exact Or.inl (isDigit_of_mem_zeros h)
      · exact hzero h
    case isFalse =>
      -- the point among them
      rw [List.mem_append, List.mem_cons] at h
      rcases h with h | rfl | h
      · exact Or.inl (hds c (List.mem_of_mem_take h))
      · exact Or.inr rfl
      · exact Or.inl (hds c (List.mem_of_mem_drop h))

/-- An exponent adds a point, the mark of the exponent, and a sign. -/
lemma mem_withExponent {ds : Text} (hds : ∀ c ∈ ds, isDigit c = true) {e : Int}
    (h : c ∈ withExponent ds e) : isDigit c = true ∨ c ∈ numberMarks := by
  rw [withExponent.eq_def, List.mem_append, List.mem_cons, List.mem_cons] at h
  rcases h with h | rfl | rfl | h
  · split at h
    case h_1 => simp at h
    case h_2 d => exact Or.inl (hds c h)
    case h_3 d rest _ =>
      rcases List.mem_cons.mp h with rfl | h
      · exact Or.inl (hds c (by simp))
      · rcases List.mem_cons.mp h with rfl | h
        · exact Or.inr (by decide)
        · exact Or.inl (hds c (List.mem_cons_of_mem _ h))
  · exact Or.inr (by decide)
  · refine Or.inr ?_
    split <;> decide
  · exact Or.inl (isDigit_of_mem_digits h)

lemma mem_layout {style : Notation} {d : Decimal} (h : c ∈ style.layout d) :
    isDigit c = true ∨ c ∈ numberMarks := by
  have hds : ∀ c ∈ digits d.coefficient, isDigit c = true := fun c => isDigit_of_mem_digits
  rw [Notation.layout] at h
  split at h
  case isTrue =>
    rcases mem_pointAt hds h with hdigit | rfl
    · exact Or.inl hdigit
    · exact Or.inr (by decide)
  case isFalse => exact mem_withExponent hds h

lemma mem_signText {sign : Float.Model.UnpackedFloat.Sign} (h : c ∈ signText sign) : c = '-' := by
  cases sign with
  | negative => exact List.mem_singleton.mp h
  | positive => exact absurd h (by simp [signText])

/-- What is written of a floating-point number: digits and what stands around them, the word for
infinity, or, for what is no number, the word for that. -/
lemma mem_render {style : Notation} {x : Float} (h : c ∈ style.render x) :
    isDigit c = true ∨ c ∈ numberMarks ∨ c ∈ "inf".toList ∨ x.isNaN = true ∧ c ∈ "NaN".toList := by
  have hminus : '-' ∈ numberMarks := by decide
  rw [Notation.render] at h
  split at h
  case h_1 hx =>
    have hnan : x.isNaN = true := by
      rw [Float.isNaN, Float.Model.isNaN, hx]
      rfl
    exact Or.inr (Or.inr (Or.inr ⟨hnan, h⟩))
  case h_2 =>
    rcases List.mem_append.mp h with h | h
    · exact Or.inr (Or.inl (mem_signText h ▸ hminus))
    · exact Or.inr (Or.inr (Or.inl h))
  case h_3 =>
    rcases List.mem_append.mp h with h | h
    · exact Or.inr (Or.inl (mem_signText h ▸ hminus))
    · have hchars : ∀ c ∈ (if style.pointZero then "0.0".toList else ['0']),
          isDigit c = true ∨ c ∈ numberMarks := by
        cases style.pointZero <;> exact List.all_iff_forall_prop.mp (by decide)
      exact (hchars c h).imp_right Or.inl
  case h_4 =>
    rcases List.mem_append.mp h with h | h
    · exact Or.inr (Or.inl (mem_signText h ▸ hminus))
    · exact (mem_layout h).imp_right Or.inl

/-! ### All of them together -/

/-- Whether numbers are written with a character: digits and what stands around them, and the
letters of the words for what is not finite. -/
def isNumberChar (c : Char) : Bool := isDigit c || (numberMarks ++ "infNaN".toList).contains c

lemma isNumberChar_iff :
    isNumberChar c = true ↔ isDigit c = true ∨ c ∈ numberMarks ++ "infNaN".toList := by
  rw [isNumberChar, Bool.or_eq_true, List.contains_iff_mem]

lemma isNumberChar_of_isDigit (h : isDigit c = true) : isNumberChar c = true :=
  isNumberChar_iff.mpr (Or.inl h)

lemma isBlank_eq_false_of_isNumberChar (h : isNumberChar c = true) : Text.isBlank c = false := by
  rcases isNumberChar_iff.mp h with h | h
  · refine isBlank_eq_false_of_isAlphanum ?_
    have hdigit : c.isDigit = true := h
    simp [Char.isAlphanum, hdigit]
  · have hmarks : ∀ c ∈ numberMarks ++ "infNaN".toList, Text.isBlank c = false :=
      List.all_iff_forall_prop.mp (by decide)
    exact hmarks c h

/-- Numbers are written with such characters, in every notation. -/
lemma all_isNumberChar_render (style : Notation) (x : Float) :
    (style.render x).all isNumberChar = true := by
  rw [List.all_eq_true]
  intro c hc
  rw [isNumberChar_iff, List.mem_append]
  rcases mem_render hc with h | h | h | ⟨-, h⟩
  · exact Or.inl h
  · exact Or.inr (Or.inl h)
  · exact Or.inr (Or.inr (List.mem_append_left "NaN".toList h))
  · exact Or.inr (Or.inr (List.mem_append_right "inf".toList h))

lemma all_isNumberChar_fixedUnits (places units : Nat) :
    (fixedUnits places units).all isNumberChar = true := by
  rw [List.all_eq_true]
  intro c hc
  rw [fixedUnits, List.mem_append, List.mem_cons] at hc
  rcases hc with hc | rfl | hc
  · exact isNumberChar_of_isDigit (isDigit_of_mem_padded (List.mem_of_mem_take hc))
  · decide
  · exact isNumberChar_of_isDigit (isDigit_of_mem_padded (List.mem_of_mem_drop hc))

/-- And so they are with a given number of places. -/
lemma all_isNumberChar_fixed (places : Nat) (x : Float) :
    (fixed places x).all isNumberChar = true := by
  have hsign : ∀ sign, (signText sign).all isNumberChar = true := by
    rintro (_ | _) <;> decide
  rw [fixed]
  split
  case h_1 => decide
  case h_2 => rw [List.all_append, hsign]; decide
  case h_3 => rw [List.all_append, hsign, all_isNumberChar_fixedUnits]; rfl
  case h_4 => rw [List.all_append, hsign, all_isNumberChar_fixedUnits]; rfl

/-- Dropping zeros adds nothing. -/
lemma mem_of_mem_dropZerosUp {s : Text} (h : c ∈ dropZerosUp s) : c ∈ s := by
  induction s using dropZerosUp.induct with
  | case1 s => exact h
  | case2 s hpoint ih =>
      rw [dropZerosUp] at h
      · exact List.mem_cons_of_mem _ (ih h)
      · exact hpoint
  | case3 s hpoint hzero =>
      rw [dropZerosUp] at h
      · exact h
      · exact hpoint
      · exact hzero

lemma all_isNumberChar_points (x : Float) : (points x).all isNumberChar = true := by
  have hdropped : (dropZerosUp (fixed 2 x).reverse).reverse.all isNumberChar = true := by
    rw [List.all_eq_true]
    intro c hc
    have hmem := List.mem_reverse.mp (mem_of_mem_dropZerosUp (List.mem_reverse.mp hc))
    exact List.all_eq_true.mp (all_isNumberChar_fixed 2 x) c hmem
  simp only [points]
  split
  · decide
  · exact hdropped

end Decimal

end Grading
