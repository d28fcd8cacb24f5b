/-
The pattern `-?[0-9]+(\.[0-9]+)?` of a signed decimal.

* `digitPattern`, `digitsPattern`, `decimalPattern`: the pattern as a regular expression, from its
  parts;
* `mem_digitsPattern_iff`: rows of digits are what the pattern for them matches;
* `isNumeral_iff_mem_decimalPattern`: the texts that write numbers are those that the whole pattern
  matches.
-/
import Grading.Proofs.Number.Numerals
import Mathlib.Computability.RegularExpressions
import Mathlib.Tactic.IntervalCases

namespace Grading

open Decimal (isDigit isDigits isDigits_iff)
open RegularExpression (char star)

variable {s : Text} {c : Char}

/-! ### The pattern -/

/-- One of the ten digits: `[0-9]`. -/
def digitPattern : RegularExpression Char := ("0123456789".toList.map char).sum

/-- A row of digits: `[0-9]+`. -/
def digitsPattern : RegularExpression Char := digitPattern * star digitPattern

/-- A signed decimal: `-?[0-9]+(\.[0-9]+)?`. -/
def decimalPattern : RegularExpression Char :=
  (1 + char '-') * (digitsPattern * (1 + char '.' * digitsPattern))

/-! ### Digits -/

/-- The ten digits are all the digits. -/
lemma isDigit_iff_mem : isDigit c = true ↔ c ∈ "0123456789".toList := by
  constructor
  · intro h
    rw [isDigit, Bool.and_eq_true, decide_eq_true_eq, decide_eq_true_eq] at h
    have hlow : 48 ≤ c.toNat := h.1
    have hhigh : c.toNat ≤ 57 := h.2
    rw [← Char.ofNat_toNat c]
    interval_cases c.toNat <;> decide
  · have hdigits : "0123456789".toList.all isDigit = true := by decide
    exact List.all_eq_true.mp hdigits c

/-- A sum of characters matches each of them. -/
lemma mem_sum_char_iff {cs : Text} :
    s ∈ ((cs.map char).sum : RegularExpression Char).matches' ↔ ∃ c ∈ cs, s = [c] := by
  induction cs with
  | nil => simp
  | cons a cs ih =>
      rw [List.map_cons, List.sum_cons, RegularExpression.matches'_add, Language.mem_add, ih,
        RegularExpression.matches'_char, List.exists_mem_cons_iff]
      rfl

lemma mem_digitPattern_iff : s ∈ digitPattern.matches' ↔ ∃ c, isDigit c = true ∧ s = [c] := by
  simp only [digitPattern, mem_sum_char_iff, isDigit_iff_mem]

/-- Any number of digits in a row, which may be none. -/
lemma mem_star_digitPattern_iff :
    s ∈ (star digitPattern).matches' ↔ ∀ c ∈ s, isDigit c = true := by
  rw [RegularExpression.matches'_star, Language.mem_kstar]
  constructor
  · rintro ⟨rows, rfl, hrows⟩ c hc
    obtain ⟨row, hrow, hc⟩ := List.mem_flatten.mp hc
    obtain ⟨d, hd, rfl⟩ := mem_digitPattern_iff.mp (hrows row hrow)
    rwa [List.mem_singleton.mp hc]
  · intro h
    refine ⟨s.map fun c => [c], ?_, ?_⟩
    · rw [← List.flatMap_def, List.flatMap_singleton']
    · rw [List.forall_mem_map]
      exact fun c hc => mem_digitPattern_iff.mpr ⟨c, h c hc, rfl⟩

/-- Rows of digits. -/
lemma mem_digitsPattern_iff : s ∈ digitsPattern.matches' ↔ isDigits s = true := by
  rw [digitsPattern, RegularExpression.matches'_mul, Language.mem_mul, isDigits_iff]
  constructor
  · rintro ⟨first, hfirst, rest, hrest, rfl⟩
    obtain ⟨c, hc, rfl⟩ := mem_digitPattern_iff.mp hfirst
    rw [List.singleton_append]
    exact ⟨List.cons_ne_nil c rest,
      List.forall_mem_cons.mpr ⟨hc, mem_star_digitPattern_iff.mp hrest⟩⟩
  · rintro ⟨hne, hdigits⟩
    obtain ⟨c, rest, rfl⟩ := List.exists_cons_of_ne_nil hne
    obtain ⟨hc, hrest⟩ := List.forall_mem_cons.mp hdigits
    exact ⟨[c], mem_digitPattern_iff.mpr ⟨c, hc, rfl⟩, rest,
      mem_star_digitPattern_iff.mpr hrest, rfl⟩

/-! ### Signed decimals -/

/-- What may be left out matches nothing too. -/
lemma mem_one_add_iff {p : RegularExpression Char} :
    s ∈ (1 + p).matches' ↔ s = [] ∨ s ∈ p.matches' := by
  rw [RegularExpression.matches'_add, Language.mem_add, RegularExpression.matches'_epsilon,
    Language.mem_one]

lemma mem_char_mul_iff {a : Char} {p : RegularExpression Char} :
    s ∈ (char a * p).matches' ↔ ∃ t ∈ p.matches', s = a :: t := by
  rw [RegularExpression.matches'_mul, Language.mem_mul]
  constructor
  · rintro ⟨_, rfl, t, ht, rfl⟩
    exact ⟨t, ht, rfl⟩
  · rintro ⟨t, ht, rfl⟩
    exact ⟨[a], rfl, t, ht, rfl⟩

/-- Without its sign, a numeral is a row of digits, and a point and another if it has places. -/
lemma exists_unsigned_iff (negative : Bool) :
    (∃ n : Numeral, n.negative = negative ∧ n.Proper ∧ n.unsigned = s)
      ↔ s ∈ (digitsPattern * (1 + char '.' * digitsPattern)).matches' := by
  rw [RegularExpression.matches'_mul, Language.mem_mul]
  simp only [mem_one_add_iff, mem_char_mul_iff, mem_digitsPattern_iff]
  constructor
  · rintro ⟨n, -, hn, rfl⟩
    refine ⟨n.whole, hn.whole, ?_⟩
    rw [Numeral.unsigned]
    rcases hn.fraction with hnone | hfraction
    · exact ⟨[], Or.inl rfl, by rw [if_pos hnone, List.append_nil]⟩
    · exact ⟨'.' :: n.fraction, Or.inr ⟨n.fraction, hfraction, rfl⟩,
        (if_neg (isDigits_iff.mp hfraction).1).symm⟩
  · rintro ⟨whole, hwhole, rest, rfl | ⟨fraction, hfraction, rfl⟩, rfl⟩
    · exact ⟨⟨negative, whole, []⟩, rfl, ⟨hwhole, Or.inl rfl⟩, by simp [Numeral.unsigned]⟩
    · exact ⟨⟨negative, whole, fraction⟩, rfl, ⟨hwhole, Or.inr hfraction⟩,
        if_neg (isDigits_iff.mp hfraction).1⟩

/-- The texts that write numbers are those that the pattern matches. -/
lemma isNumeral_iff_mem_decimalPattern : isNumeral s = true ↔ s ∈ decimalPattern.matches' := by
  have hnumeral : isNumeral s = true ↔ ∃ n : Numeral, n.Proper ∧ n.render = s := by
    simp only [isNumeral, Option.isSome_iff_exists, Numeral.ofText?_eq_some_iff]
  rw [hnumeral, decimalPattern, RegularExpression.matches'_mul, Language.mem_mul]
  simp only [mem_one_add_iff]
  constructor
  · rintro ⟨n, hn, rfl⟩
    have hunsigned := (exists_unsigned_iff n.negative).mp ⟨n, rfl, hn, rfl⟩
    rw [Numeral.render]
    cases n.negative with
    | false => exact ⟨[], Or.inl rfl, n.unsigned, hunsigned, rfl⟩
    | true => exact ⟨['-'], Or.inr rfl, n.unsigned, hunsigned, rfl⟩
  · rintro ⟨sign, rfl | rfl, t, ht, rfl⟩
    · obtain ⟨n, hnegative, hn, rfl⟩ := (exists_unsigned_iff false).mpr ht
      exact ⟨n, hn, by rw [Numeral.render, hnegative]; rfl⟩
    · obtain ⟨n, hnegative, hn, rfl⟩ := (exists_unsigned_iff true).mpr ht
      exact ⟨n, hn, by rw [Numeral.render, hnegative]; rfl⟩

end Grading
