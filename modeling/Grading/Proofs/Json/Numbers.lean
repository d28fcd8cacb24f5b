/-
Numbers are read back.

* `splitNumeric?_parts`: a number splits into its sign, the digits around the point and the
  exponent;
* `splitNumeric?_digits`: a whole number is split into its digits and nothing else;
* `written_ofWord`, `word?_ofWord`: an unsigned number of 64 bits is a word, and read back from it;
* `FloatReadsBack`: a finite floating-point number that the reader gives back;
* `reread`, `reread_eq_self`: what is read back of a number, which is such a number itself.
-/
import Grading.Json.Fields
import Grading.Proofs.Decimal.Whole
import Grading.Proofs.Json.Rendered

namespace Grading

namespace Json

open Decimal (digits isDigit isDigits isDigits_iff isNumberChar portable wordCount)

variable {w : Text} {x : Float} {n : Nat} {c : Char}

/-! ### Words that are numbers -/

lemma isWordChar_of_isNumberChar (h : isNumberChar c = true) : isWordChar c = true := by
  have hmarks : ∀ c ∈ Decimal.numberMarks ++ "infNaN".toList, isWordChar c = true :=
    List.all_iff_forall_prop.mp (by decide)
  rcases Decimal.isNumberChar_iff.mp h with h | h
  · have hdigit : c.isDigit = true := h
    simp [isWordChar, Char.isAlphanum, hdigit]
  · exact hmarks c h

/-- A number is none of the words for other values. -/
lemma ofWord?_of_isNumberChar (h : w.all isNumberChar = true)
    (hw : (splitNumeric? w).isSome = true) : ofWord? w = some (number w) := by
  have hnull : "null".toList.all isNumberChar = false := by decide
  have htrue : "true".toList.all isNumberChar = false := by decide
  have hfalse : "false".toList.all isNumberChar = false := by decide
  have hother (word : Text) (hword : word.all isNumberChar = false) : w ≠ word := by
    rintro rfl
    rw [hword] at h
    cases h
  rw [ofWord?, if_neg (hother _ hnull), if_neg (hother _ htrue), if_neg (hother _ hfalse),
    if_pos hw]

/-- A number that can be split is written. -/
lemma written_number (h : w.all isNumberChar = true) (hw : (splitNumeric? w).isSome = true) :
    Written (number w) :=
  .number (fun c hc => isWordChar_of_isNumberChar (List.all_eq_true.mp h c hc))
    (ofWord?_of_isNumberChar h hw)

/-! ### The parts of a number -/

/-- What stands in front of the digits. -/
def minus : Bool → Text
  | true => ['-']
  | false => []

/-- What stands after the digits in front of the point. -/
def pointed : Option Text → Text
  | none => []
  | some fraction => '.' :: fraction

/-- A number splits into its sign, the digits around the point and the exponent. -/
lemma splitNumeric?_parts (negative : Bool) {whole tail : Text} {fraction : Option Text}
    (hwhole : isDigits whole = true) (hzero : whole.head? = some '0' → whole.length = 1)
    (hfraction : ∀ t, fraction = some t → isDigits t = true)
    (htail : tail = [] ∨ ∃ t, tail = 'e' :: t) :
    splitNumeric? (minus negative ++ (whole ++ (pointed fraction ++ tail)))
      = if tail = [] then some ⟨negative, whole, fraction, none⟩
        else (Decimal.readExponent? tail).map fun e => ⟨negative, whole, fraction, some e⟩ := by
  obtain ⟨hne, hdigits⟩ := isDigits_iff.mp hwhole
  -- no digit follows the digits around the point
  have htail' : ∀ c, tail.head? = some c → isDigit c = false := by
    rcases htail with rfl | ⟨t, rfl⟩
    · exact fun c hc => nomatch hc
    · rintro c ⟨⟩
      decide
  have hrest : ∀ c, (pointed fraction ++ tail).head? = some c → isDigit c = false := by
    cases fraction with
    | none => exact htail'
    | some t =>
        rintro c ⟨⟩
        decide
  obtain ⟨htake, hdrop⟩ := span_append hdigits hrest
  -- the digits do not begin with a minus, so that the sign is cut off alone
  have hminus : ∀ t, whole ++ (pointed fraction ++ tail) ≠ '-' :: t := by
    obtain ⟨c, s, rfl⟩ := List.exists_cons_of_ne_nil hne
    intro t ht
    have hdigit := hdigits c List.mem_cons_self
    rw [(List.cons.inj ht).1] at hdigit
    exact absurd hdigit (by decide)
  have hempty : whole.isEmpty = false := List.isEmpty_eq_false_iff.mpr hne
  have hzeros : (whole.head? = some '0' && whole.length ≠ 1) = false := by
    rw [Bool.and_eq_false_imp]
    intro h
    simpa using hzero (of_decide_eq_true h)
  rw [splitNumeric?.eq_def]
  split
  case h_1 negative' body heq =>
    have hbody : negative' = negative ∧ body = whole ++ (pointed fraction ++ tail) := by
      cases negative with
      | true => exact ⟨(Prod.mk.inj heq).1.symm, (Prod.mk.inj heq).2.symm⟩
      | false =>
          rw [minus, List.nil_append] at heq
          split at heq
          case h_1 t ht => exact absurd ht (hminus t)
          case h_2 => exact ⟨(Prod.mk.inj heq).1.symm, (Prod.mk.inj heq).2.symm⟩
    obtain ⟨rfl, rfl⟩ := hbody
    simp only [htake, hdrop, hempty, hzeros]
    -- the digits after the point are cut off in turn
    cases fraction with
    | none => rcases htail with rfl | ⟨t, rfl⟩ <;> rfl
    | some t =>
        obtain ⟨hne', ht⟩ := isDigits_iff.mp (hfraction t rfl)
        obtain ⟨htake', hdrop'⟩ := span_append ht htail'
        have hsome : ¬ (false || false || decide (some t = some [])) = true := by simpa using hne'
        rcases htail with rfl | ⟨u, rfl⟩ <;>
          simp only [pointed, List.cons_append, htake', hdrop'] <;>
          exact if_neg hsome

/-- A whole number is split into its digits and nothing else. -/
lemma splitNumeric?_digits (n : Nat) :
    splitNumeric? (digits n) = some ⟨false, digits n, none, none⟩ := by
  have hzero : (digits n).head? = some '0' → (digits n).length = 1 := by
    intro h
    by_cases hn : n = 0
    · subst hn
      simp [Decimal.digits_of_lt]
    · exact absurd h (Decimal.head?_digits_ne hn)
  have hnone : ∀ t : Text, none = some t → isDigits t = true := fun t h => nomatch h
  have hparts := splitNumeric?_parts false (Decimal.isDigits_digits n) hzero hnone (Or.inl rfl)
  rwa [minus, pointed, List.append_nil, List.append_nil] at hparts

/-! ### Numbers as values -/

/-- An unsigned number of 64 bits is a word. -/
lemma written_ofWord (n : UInt64) : Written (ofWord n) := by
  refine written_number ?_ (by rw [splitNumeric?_digits]; rfl)
  exact List.all_eq_true.mpr fun c hc =>
    Decimal.isNumberChar_of_isDigit (Decimal.isDigit_of_mem_digits hc)

/-- It is read back from its digits. -/
lemma word?_ofWord (n : UInt64) : word? (ofWord n) = some n := by
  have hlt : n.toNat < wordCount := n.toNat_lt
  rw [ofWord, word?, splitNumeric?_digits, Option.bind_some, Spelled.toWord?]
  simp [Decimal.value_digits, hlt]

/-- Whether a floating-point number is finite and given back by the reader. The reader rounds twice,
so not all numbers are. -/
structure FloatReadsBack (x : Float) : Prop where
  /-- The number is finite. -/
  finite : x.isFinite = true
  /-- What is written of it is read as it. -/
  read : (splitNumeric? (portable.render x)).bind Spelled.toFloat? = some x

/-- What the reader makes of what is written of a number. -/
def reread (x : Float) : Option Float := float? (ofFloat x)

/-- Such a number is read back from the word. -/
lemma reread_eq_self (h : FloatReadsBack x) : reread x = some x := by
  rw [reread, ofFloat, if_pos h.finite]
  exact h.read

end Json

end Grading
