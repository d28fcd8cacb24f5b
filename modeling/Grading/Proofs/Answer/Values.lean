/-
Numbers as answers, by what they stand for and not by how they are written.

* `Alternative.accepts_of_number`: a number matches an alternative by its distance only;
* `mark_of_equal_numbers`: equal numbers earn the same, however they are written.
-/
import Grading.Proofs.Answer.Priority
import Grading.Proofs.Answer.Solution

namespace Grading

variable {rules : Rules} {a : Alternative} {raw s t : Text} {x y : Float}

/-- A number matches an alternative by its distance from the value, if that is a number too. -/
lemma Alternative.accepts_of_number (h : readNumber? (normalize rules raw).text = some x) :
    a.accepts rules raw = true
      ↔ ∃ y, readNumber? (normalize rules a.value).text = some y ∧ a.admits (x - y).abs = true :=
  isSome_match?_of_number h

/-- A number is no fraction, and so nothing is told of a division by zero. -/
lemma fault_eq_none_of_number (h : readNumber? (normalize rules s).text = some x) :
    (normalize rules s).fault = none :=
  fault_eq_none (fractionParts?_eq_none (notMem_of_readNumber? h (by decide) (by decide)))

/-- **Numbers by value**: answers whose normal forms are equal numbers earn the same, up to the
answer that is shown, be they written with more places, as fractions that are converted, or as a
zero with a minus. -/
theorem mark_of_equal_numbers (hs : readNumber? (normalize rules s).text = some x)
    (ht : readNumber? (normalize rules t).text = some y) (hxy : (x == y) = true) (p : Problem) :
    p.mark rules t = { p.mark rules s with answer := (normalize rules t).text } := by
  refine Problem.mark_eq_of_accepts ?_ (fun a => ?_) p
  · rw [fault_eq_none_of_number hs, fault_eq_none_of_number ht]
  · rw [Bool.eq_iff_iff, Alternative.accepts_of_number ht, Alternative.accepts_of_number hs]
    simp only [Decimal.abs_sub_congr hxy]

/-- A zero with a minus, and a fraction of zero, around which half a unit is accepted. -/
theorem mark_of_equal_numbers_zero :
    let p : Problem := ⟨"1".toList, [.ofTags "nil".toList [], .ofTags "0.25".toList [.range 0 0.5]]⟩
    readNumber? (normalize {} "-0.0".toList).text = some (-0)
      ∧ readNumber? (normalize {} "0 / 7".toList).text = some 0
      ∧ ((-0 : Float) == 0) = true
      ∧ p.mark {} "0 / 7".toList = { p.mark {} "-0.0".toList with answer := "0".toList }
      ∧ (p.mark {} "0 / 7".toList).verdict = .correct := by
  intro p
  have hminus : readNumber? (normalize {} "-0.0".toList).text = some (-0) := by decide +kernel
  have hfraction : readNumber? (normalize {} "0 / 7".toList).text = some 0 := by decide +kernel
  have hzeros : ((-0 : Float) == 0) = true := by decide
  have htext : (normalize {} "0 / 7".toList).text = "0".toList := by decide +kernel
  refine ⟨hminus, hfraction, hzeros, ?_, by decide +kernel⟩
  rw [mark_of_equal_numbers hminus hfraction hzeros p, htext]

end Grading
