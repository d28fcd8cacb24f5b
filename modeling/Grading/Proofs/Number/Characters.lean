/-
The characters that numbers and fractions are written with.

* `mem_of_readNumber?`, `notMem_of_readNumber?`: a number is read from digits, a minus and a point,
  and from nothing else;
* `fractionParts?_eq_some_iff`: a fraction is two numbers around its first slash;
* `mem_of_fractionParts?`: what else a fraction holds are blanks.
-/
import Grading.Number.Fraction
import Grading.Proofs.Key.Numbered
import Grading.Proofs.Number.Numerals

namespace Grading

open Decimal (isDigit)

variable {s : Text} {x y : Float} {c : Char}

/-! ### Numbers -/

/-- A number is read from digits, a minus and a point. -/
lemma mem_of_readNumber? (h : readNumber? s = some x) (hc : c ∈ s) :
    isDigit c = true ∨ c = '.' ∨ c = '-' := by
  obtain ⟨n, hn, rfl, -⟩ := readNumber?_eq_some_iff.mp h
  exact hn.mem_render hc

/-- A number holds no character of another kind. -/
lemma notMem_of_readNumber? (h : readNumber? s = some x) (hdigit : isDigit c = false)
    (hmark : c ∉ ['.', '-']) : c ∉ s := by
  intro hc
  have hkind := mem_of_readNumber? h hc
  rw [hdigit] at hkind
  simp only [List.mem_cons, List.not_mem_nil, or_false, not_or] at hmark
  tauto

/-- A number is not empty. -/
lemma ne_nil_of_readNumber? (h : readNumber? s = some x) : s ≠ [] := by
  rintro rfl
  cases h

/-! ### Fractions -/

/-- A fraction is two numbers around its first slash, each possibly with blanks around it. -/
lemma fractionParts?_eq_some_iff :
    fractionParts? s = some (x, y)
      ↔ ∃ a b, s.cut? '/' = some (a, b) ∧ readNumber? a.trim = some x
          ∧ readNumber? b.trim = some y := by
  rw [fractionParts?]
  cases s.cut? '/' with
  | none => simp
  | some parts =>
      obtain ⟨a, b⟩ := parts
      cases hx : readNumber? a.trim <;> cases hy : readNumber? b.trim <;> simp [hx, hy]

/-- A text without a slash is no fraction. -/
lemma fractionParts?_eq_none (h : '/' ∉ s) : fractionParts? s = none := by
  rw [fractionParts?, Text.cut?_eq_none h]
  rfl

/-- A fraction is written with digits, minuses, points, a slash and blanks. -/
lemma mem_of_fractionParts? (h : fractionParts? s = some (x, y)) (hc : c ∈ s) :
    (isDigit c = true ∨ c = '.' ∨ c = '-') ∨ c = '/' ∨ Text.isBlank c = true := by
  obtain ⟨a, b, hcut, ha, hb⟩ := fractionParts?_eq_some_iff.mp h
  obtain ⟨rfl, -⟩ := Text.cut?_eq_some_iff.mp hcut
  rcases hblank : Text.isBlank c with _ | _
  · rcases List.mem_append.mp hc with hc | hc
    · exact Or.inl (mem_of_readNumber? ha (Text.mem_trim_of_not_blank hc hblank))
    · rcases List.mem_cons.mp hc with rfl | hc
      · exact Or.inr (Or.inl rfl)
      · exact Or.inl (mem_of_readNumber? hb (Text.mem_trim_of_not_blank hc hblank))
  · exact Or.inr (Or.inr rfl)

/-- A text with a character of another kind is no fraction. -/
lemma fractionParts?_eq_none_of_mem (hc : c ∈ s) (hdigit : isDigit c = false)
    (hmark : c ∉ ['.', '-', '/']) (hblank : Text.isBlank c = false) : fractionParts? s = none := by
  rw [Option.eq_none_iff_forall_ne_some]
  rintro ⟨x, y⟩ h
  have hkind := mem_of_fractionParts? h hc
  simp only [hdigit, hblank] at hkind
  simp only [List.mem_cons, List.not_mem_nil, or_false, not_or] at hmark
  tauto

end Grading
