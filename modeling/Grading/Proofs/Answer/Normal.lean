/-
Normal forms, and that they are their own normal forms.

* `foldCase_eq_self`, `foldCase_foldCase`: a text in lower case without blanks that do not count
  stays as it is, and folding the case of a text gives one of that kind;
* `normalize_twoPlaces`: the quotient of a fraction is its own normal form if it is a number;
* `DividesInfinities`: a fraction of two numbers that are both read as infinite, whose quotient is
  no number;
* `normalize_again_iff`: the normal form of every other text is its own normal form, and the answer
  that a mark shows earns the same mark;
* `mark_differs_again`: for a fraction of two numbers with hundreds of digits it does not.
-/
import Grading.Proofs.Answer.Lists
import Grading.Proofs.Decimal.Special
import Grading.Proofs.Key.Unrolled
import Grading.Proofs.Number.Characters
import Grading.Proofs.Text.Lowered

namespace Grading

open Decimal (powerOfTen isDigit numberMarks)
open Text (Lowered Tight squeeze squeeze_eq_self tight_of_forall_not_blank)

variable {rules : Rules} {p : Problem} {raw s t : Text} {x y : Float} {c : Char}

/-! ### Case and blanks -/

/-- A text in lower case without blanks at its ends, and without any unless spacing counts, stays as
it is. -/
lemma foldCase_eq_self (hlowered : ∀ c ∈ s, Lowered c) (htight : Tight s)
    (hblank : rules.preserveSpacing = false → squeeze s = s) : foldCase rules s = s := by
  rw [foldCase, htight.trim_eq, Text.lower_eq_self hlowered]
  cases hspacing : rules.preserveSpacing with
  | true => rfl
  | false => exact hblank hspacing

/-- A text of characters in lower case that are no blanks stays as it is. -/
lemma foldCase_of_forall (h : ∀ c ∈ s, Lowered c ∧ Text.isBlank c = false) :
    foldCase rules s = s :=
  foldCase_eq_self (fun c hc => (h c hc).1) (tight_of_forall_not_blank fun c hc => (h c hc).2)
    fun _ => squeeze_eq_self fun c hc => (h c hc).2

lemma foldCase_foldCase (rules : Rules) (s : Text) :
    foldCase rules (foldCase rules s) = foldCase rules s := by
  have htight : Tight s.trim.lower := Text.tight_lower (Text.tight_trim s)
  cases hspacing : rules.preserveSpacing with
  | true =>
      have hfold : foldCase rules s = s.trim.lower := by rw [foldCase, if_pos hspacing]
      rw [hfold]
      exact foldCase_eq_self (fun c => Text.lowered_of_mem_lower) htight
        fun h => absurd (hspacing.symm.trans h) (by decide)
  | false =>
      have hfold : foldCase rules s = s.trim.lower.squeeze := by
        rw [foldCase, if_neg (by simp [hspacing])]
      rw [hfold]
      refine foldCase_of_forall fun c hc => ?_
      obtain ⟨hmem, hblank⟩ := List.mem_filter.mp hc
      exact ⟨Text.lowered_of_mem_lower hmem, by simpa using hblank⟩

/-! ### Fractions -/

/-- The characters of a number, in lower case and without blanks. -/
lemma lowered_of_number (h : isDigit c = true ∨ c ∈ numberMarks ∨ c ∈ "inf".toList) :
    Lowered c ∧ Text.isBlank c = false := by
  have hmarks : ∀ c ∈ numberMarks ++ "inf".toList, Lowered c ∧ Text.isBlank c = false :=
    List.all_iff_forall_prop.mp (by decide)
  rcases h with h | h
  · refine ⟨Text.lowered_of_lt ?_,
      Decimal.isBlank_eq_false_of_isNumberChar (Decimal.isNumberChar_of_isDigit h)⟩
    rw [isDigit, Bool.and_eq_true, decide_eq_true_eq, decide_eq_true_eq] at h
    exact Nat.lt_of_le_of_lt h.2 (by decide)
  · exact hmarks c (List.mem_append.mpr h)

lemma convertFraction_of_eq_none (h : fractionParts? s = none) :
    convertFraction rules s = ⟨s, none⟩ := by
  rw [convertFraction, quotient?, h]
  split <;> rfl

/-- The quotient of a fraction is its own normal form if it is a number. -/
lemma normalize_twoPlaces (rules : Rules) (hx : x.isNaN = false) :
    normalize rules (twoPlaces x) = ⟨twoPlaces x, none⟩ := by
  have hslash : '/' ∉ twoPlaces x := by
    intro hmem
    rcases Decimal.mem_twoPlaces hx hmem with h | h | h <;> exact absurd h (by decide)
  rw [normalize, foldCase_of_forall fun c hc => lowered_of_number (Decimal.mem_twoPlaces hx hc),
    convertFraction_of_eq_none (fractionParts?_eq_none hslash)]

/-- The normal form of the word for what is no number is in lower case. -/
lemma normalize_NaN (rules : Rules) : normalize rules "NaN".toList = ⟨"nan".toList, none⟩ := by
  have hfold : foldCase rules "NaN".toList = "nan".toList := by
    rw [foldCase]
    cases rules.preserveSpacing <;> rfl
  rw [normalize, hfold]
  exact convertFraction_of_eq_none rfl

/-- What is read from a fraction are two numbers. -/
lemma isNaN_of_fractionParts? (h : fractionParts? s = some (x, y)) :
    x.isNaN = false ∧ y.isNaN = false := by
  obtain ⟨a, b, -, hnumerator, hdenominator⟩ := fractionParts?_eq_some_iff.mp h
  exact ⟨Decimal.isNaN_readNumber? hnumerator, Decimal.isNaN_readNumber? hdenominator⟩

/-- A normal form is the text with its case folded, or the quotient of a fraction. -/
lemma normalize_cases (rules : Rules) (s : Text) :
    (normalize rules s).text = foldCase rules s
      ∨ ∃ x y, rules.convertFractions = true ∧ fractionParts? (foldCase rules s) = some (x, y)
          ∧ (y == 0) = false ∧ normalize rules s = ⟨twoPlaces (x / y), none⟩ := by
  rw [normalize, convertFraction]
  cases hconvert : rules.convertFractions with
  | false => exact Or.inl rfl
  | true =>
      rw [if_pos rfl, quotient?]
      cases hparts : fractionParts? (foldCase rules s) with
      | none => exact Or.inl rfl
      | some parts =>
          obtain ⟨x, y⟩ := parts
          cases hzero : y == 0 with
          | true => exact Or.inl (by simp [hzero])
          | false => exact Or.inr ⟨x, y, rfl, rfl, hzero, by simp [hzero]⟩

/-- Only a fraction can have a fault. -/
lemma fault_eq_none (h : fractionParts? (normalize rules s).text = none) :
    (normalize rules s).fault = none := by
  rcases normalize_cases rules s with hfold | ⟨x, y, -, -, -, hquotient⟩
  · rw [hfold] at h
    rw [normalize, convertFraction_of_eq_none h]
  · rw [hquotient]

/-! ### Normal forms of normal forms -/

/-- Whether the text is a fraction that is converted, of two numbers that are both read as
infinite. -/
def DividesInfinities (rules : Rules) (s : Text) : Prop :=
  rules.convertFractions = true
    ∧ ∃ x y, fractionParts? (foldCase rules s) = some (x, y) ∧ x.isInf = true ∧ y.isInf = true

/-- The quotient of two infinite numbers is no number. -/
lemma normalize_of_dividesInfinities (h : DividesInfinities rules s) :
    normalize rules s = ⟨"NaN".toList, none⟩ := by
  obtain ⟨hconvert, x, y, hparts, hx, hy⟩ := h
  obtain ⟨hxNaN, hyNaN⟩ := isNaN_of_fractionParts? hparts
  have hzero : (y == 0) = false := Decimal.beq_zero_of_isInf hy
  have hquotient : (x / y).isNaN = true :=
    (Decimal.isNaN_div_iff hxNaN hyNaN hzero).mpr ⟨hx, hy⟩
  rw [normalize, convertFraction, if_pos hconvert, quotient?, hparts]
  simp [hzero, Decimal.twoPlaces_of_isNaN hquotient]

/-- Every other normal form is its own normal form, with the same fault. -/
lemma normalize_normalize (h : ¬ DividesInfinities rules s) :
    normalize rules (normalize rules s).text = normalize rules s := by
  rcases normalize_cases rules s with hfold | ⟨x, y, hconvert, hparts, hzero, hquotient⟩
  · rw [hfold, normalize, foldCase_foldCase, ← normalize]
  · obtain ⟨hx, hy⟩ := isNaN_of_fractionParts? hparts
    have hnumber : (x / y).isNaN = false := by
      rw [← Bool.not_eq_true, Decimal.isNaN_div_iff hx hy hzero]
      exact fun hinf => h ⟨hconvert, x, y, hparts, hinf⟩
    rw [hquotient, normalize_twoPlaces rules hnumber]

/-- The answer that a mark shows is the normal form of the answer that was given. -/
lemma Problem.answer_mark (rules : Rules) (p : Problem) (raw : Text) :
    (p.mark rules raw).answer = (normalize rules raw).text := by
  rw [mark]
  cases hfound : (p.judge rules raw).found <;> simp only <;> rfl

/-- Answers with the same normal form earn the same mark. -/
lemma Problem.mark_congr (h : normalize rules s = normalize rules t) :
    p.mark rules s = p.mark rules t := by
  have hjudge : p.judge rules s = p.judge rules t := by rw [judge, judge, h]
  rw [mark, mark, hjudge]

/-- **Grading the answer that a mark shows**: a normal form is its own normal form, with the same
fault, and so the answer that a mark shows earns the same mark, except if a fraction of two infinite
numbers was converted. -/
theorem normalize_again_iff (rules : Rules) (raw : Text) :
    (normalize rules (normalize rules raw).text = normalize rules raw
        ↔ ¬ DividesInfinities rules raw)
      ∧ ∀ p : Problem, p.mark rules (p.mark rules raw).answer = p.mark rules raw
          ↔ ¬ DividesInfinities rules raw := by
  have hdivides (h : DividesInfinities rules raw) :
      (normalize rules (normalize rules raw).text).text ≠ (normalize rules raw).text := by
    rw [normalize_of_dividesInfinities h, normalize_NaN]
    decide
  refine ⟨⟨fun heq h => hdivides h (congrArg Normal.text heq), normalize_normalize⟩,
    fun p => ⟨fun heq h => hdivides h ?_, fun h => ?_⟩⟩
  · have hanswer := congrArg Mark.answer heq
    rwa [p.answer_mark, p.answer_mark] at hanswer
  · rw [p.answer_mark]
    exact p.mark_congr (normalize_normalize h)

/-! ### Numbers with hundreds of digits -/

section Huge

variable {k : Nat}

lemma isDigit_of_mem_powerOfTen (h : c ∈ powerOfTen k) : isDigit c = true := by
  have hall := Decimal.isDigits_powerOfTen k
  rw [Decimal.isDigits, Bool.and_eq_true, List.all_eq_true] at hall
  exact hall.2 c h

lemma lowered_of_mem_powerOfTen (h : c ∈ powerOfTen k) :
    Lowered c ∧ Text.isBlank c = false :=
  lowered_of_number (Or.inl (isDigit_of_mem_powerOfTen h))

/-- A fraction of two powers of ten. -/
def powerQuotient (k : Nat) : Text := powerOfTen k ++ '/' :: powerOfTen k

lemma mem_powerQuotient (h : c ∈ powerQuotient k) : c ∈ powerOfTen k ∨ c = '/' := by
  rw [powerQuotient, List.mem_append, List.mem_cons] at h
  tauto

lemma lowered_of_mem_powerQuotient (h : c ∈ powerQuotient k) :
    Lowered c ∧ Text.isBlank c = false := by
  rcases mem_powerQuotient h with h | rfl
  · exact lowered_of_mem_powerOfTen h
  · exact ⟨Text.lowered_of_lt (by decide), by decide⟩

/-- A power of ten, and a fraction of two, can stand between separators. -/
lemma canonical_of_powers (hne : s ≠ [])
    (h : ∀ c ∈ s, (isDigit c = true ∨ c = '/') ∧ Text.isBlank c = false) :
    Entry.Canonical ⟨s, []⟩ where
  value_ne := hne
  value_tight := tight_of_forall_not_blank fun c hc => (h c hc).2
  value_free := by
    intro c hc
    refine ⟨?_, ?_, ?_⟩ <;> rintro rfl <;> exact absurd (h _ hc).1 (by decide)
  tag_ne := by simp
  tag_tight := by simp
  tag_free := by simp

lemma canonical_powerOfTen (k : Nat) : Entry.Canonical ⟨powerOfTen k, []⟩ :=
  canonical_of_powers (List.cons_ne_nil _ _) fun _ hc =>
    ⟨Or.inl (isDigit_of_mem_powerOfTen hc), (lowered_of_mem_powerOfTen hc).2⟩

lemma canonical_powerQuotient (k : Nat) : Entry.Canonical ⟨powerQuotient k, []⟩ :=
  canonical_of_powers (List.cons_ne_nil _ _) fun _ hc =>
    ⟨(mem_powerQuotient hc).imp_left isDigit_of_mem_powerOfTen,
      (lowered_of_mem_powerQuotient hc).2⟩

lemma normalize_powerOfTen (rules : Rules) (k : Nat) :
    normalize rules (powerOfTen k) = ⟨powerOfTen k, none⟩ := by
  have hslash : '/' ∉ powerOfTen k := fun h => absurd (isDigit_of_mem_powerOfTen h) (by decide)
  rw [normalize, foldCase_of_forall fun c hc => lowered_of_mem_powerOfTen hc,
    convertFraction_of_eq_none (fractionParts?_eq_none hslash)]

/-- With hundreds of digits, both parts of the fraction are read as infinite. -/
lemma dividesInfinities_powerQuotient (h : 310 ≤ k) : DividesInfinities {} (powerQuotient k) := by
  have hfold : foldCase {} (powerQuotient k) = powerQuotient k :=
    foldCase_of_forall fun c hc => lowered_of_mem_powerQuotient hc
  have hcut : Text.cut? '/' (powerQuotient k) = some (powerOfTen k, powerOfTen k) :=
    Text.cut?_eq_some_iff.mpr
      ⟨rfl, fun hslash => absurd (isDigit_of_mem_powerOfTen hslash) (by decide)⟩
  have htrim : Text.trim (powerOfTen k) = powerOfTen k :=
    (canonical_powerOfTen k).value_tight.trim_eq
  have hpart : readNumber? (powerOfTen k).trim = some (1 / 0) := by
    rw [htrim, Decimal.readNumber?_powerOfTen h]
  have hparts : fractionParts? (powerQuotient k) = some (1 / 0, 1 / 0) :=
    fractionParts?_eq_some_iff.mpr ⟨_, _, hcut, hpart, hpart⟩
  exact ⟨rfl, 1 / 0, 1 / 0, by rw [hfold, hparts], by decide, by decide⟩

end Huge

/-- A fraction of two numbers with hundreds of digits is shown as `NaN`. An author can have written
the fraction as an answer, and the word in lower case is none. -/
theorem mark_differs_again :
    ∃ p, Problem.ofLine "1".toList (powerQuotient 400) = .ok p
      ∧ (p.mark {} (powerQuotient 400)).answer = "NaN".toList
      ∧ (p.mark {} (powerQuotient 400)).verdict = .correct
      ∧ (p.mark {} "NaN".toList).answer = "nan".toList
      ∧ (p.mark {} "NaN".toList).verdict = .incorrect := by
  have hfraction : normalize {} (powerQuotient 400) = ⟨"NaN".toList, none⟩ :=
    normalize_of_dividesInfinities (dividesInfinities_powerQuotient (by decide))
  have hword := normalize_NaN {}
  let p : Problem := ⟨"1".toList, [.ofTags (powerQuotient 400) []]⟩
  have hfirst : p.judge {} (powerQuotient 400)
      = ⟨⟨"NaN".toList, none⟩, [⟨"NaN".toList, none⟩],
          some (.ofTags (powerQuotient 400) [], .exact)⟩ := by
    simp only [Problem.judge, search, Alternative.ofTags, hfraction, p]
    rfl
  have hsecond : p.judge {} "NaN".toList
      = ⟨⟨"nan".toList, none⟩, [⟨"NaN".toList, none⟩], none⟩ := by
    simp only [Problem.judge, search, Alternative.ofTags, hfraction, hword, p]
    rfl
  refine ⟨p, (canonical_powerQuotient 400).ofLine _, ?_, ?_, ?_, ?_⟩
  · rw [p.answer_mark, hfraction]
  · have hcredit : ¬ (1 : Float) < 1 := by decide
    rw [Problem.mark, hfirst]
    change (if (1 : Float) < 1 then Verdict.partialCredit else .correct) = .correct
    exact if_neg hcredit
  · rw [p.answer_mark, hword]
  · rw [Problem.mark, hsecond]
    rfl

end Grading
