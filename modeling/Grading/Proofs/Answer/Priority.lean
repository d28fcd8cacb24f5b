/-
The first alternative that an answer matches decides, and what comes after it is not looked at.

* `fst_search`: the alternatives that are tried are those up to the first match;
* `diagnosticsOf`, `Problem.diagnostics_mark`: what is told of divisions by zero, in the answer and
  in the values that are tried;
* `Problem.mark_eq_of_accepts`: answers that match the same alternatives earn the same, up to the
  answer that is shown;
* `Problem.only`: a problem with one of the alternatives;
* `mark_eq_mark_only`: an answer earns what it earns for the first alternative that accepts it
  alone, and is incorrect if none does.
-/
import Grading.Proofs.Answer.Normal

namespace Grading

variable {rules : Rules} {a : Alternative} {p : Problem} {raw s t : Text}

/-! ### What is tried -/

/-- The alternatives that are tried are those up to the first that the answer matches. -/
lemma fst_search (rules : Rules) (answer : Text) (alternatives : List Alternative) :
    (search rules answer alternatives).1
      = (alternatives.take ((alternatives.findIdx fun a =>
          (a.match? rules (normalize rules a.value).text answer).isSome) + 1)).map
          fun a => normalize rules a.value := by
  induction alternatives with
  | nil => rfl
  | cons a others ih =>
      rw [search, List.findIdx_cons]
      cases a.match? rules (normalize rules a.value).text answer with
      | some kind => rfl
      | none =>
          simp only [ih, Option.isSome_none, cond_false]
          rw [List.take_succ_cons, List.map_cons]

/-- What is told of divisions by zero when the given texts are normalized, in order. -/
def diagnosticsOf (rules : Rules) (texts : List Text) : List Text :=
  ((texts.map (normalize rules)).filterMap Normal.fault).map DivisionByZero.message

namespace Problem

/-- What an answer is compared with: the values up to the first that it matches, or all of them. -/
def triedValues (rules : Rules) (p : Problem) (raw : Text) : List Text :=
  (p.alternatives.take (p.alternatives.findIdx (Alternative.accepts rules raw) + 1)).map
    Alternative.value

/-- What is told are the faults of the answer, then those of the values it is compared with. -/
lemma diagnostics_mark (rules : Rules) (p : Problem) (raw : Text) :
    (p.mark rules raw).diagnostics = diagnosticsOf rules (raw :: p.triedValues rules raw) := by
  have htried : (p.judge rules raw).tried = (p.triedValues rules raw).map (normalize rules) := by
    rw [triedValues, List.map_map]
    exact fst_search rules (normalize rules raw).text p.alternatives
  have hfaults : (p.judge rules raw).faults
      = ((raw :: p.triedValues rules raw).map (normalize rules)).filterMap Normal.fault := by
    rw [Judgement.faults, htried]
    rfl
  rw [diagnosticsOf, ← hfaults, mark]
  cases (p.judge rules raw).found <;> rfl

/-- Answers that match the same alternatives, with the same fault, earn the same up to the answer
that is shown. -/
lemma mark_eq_of_accepts (hfault : (normalize rules t).fault = (normalize rules s).fault)
    (haccepts : ∀ a : Alternative, a.accepts rules t = a.accepts rules s) (p : Problem) :
    p.mark rules t = { p.mark rules s with answer := (normalize rules t).text } := by
  have hsame : Alternative.accepts rules t = Alternative.accepts rules s := funext haccepts
  have hmatched : (p.mark rules t).matched = (p.mark rules s).matched := by
    rw [matched_mark, matched_mark, hsame]
  have hdiagnostics : (p.mark rules t).diagnostics = (p.mark rules s).diagnostics := by
    rw [diagnostics_mark, diagnostics_mark, triedValues, triedValues, hsame, diagnosticsOf,
      diagnosticsOf, List.map_cons, List.map_cons, List.filterMap_cons, List.filterMap_cons, hfault]
  cases hs : (p.mark rules s).matched with
  | none =>
      rw [hs] at hmatched
      rw [mark_eq_incorrectMark hmatched, mark_eq_incorrectMark hs, hdiagnostics]
      rfl
  | some a =>
      rw [hs] at hmatched
      rw [mark_eq_creditMark hmatched, mark_eq_creditMark hs, hdiagnostics]
      rfl

/-! ### One alternative alone -/

/-- The problem with one alternative. -/
def only (p : Problem) (a : Alternative) : Problem := ⟨p.number, [a]⟩

lemma matched_mark_only (rules : Rules) (p : Problem) (a : Alternative) (raw : Text) :
    ((p.only a).mark rules raw).matched = if a.accepts rules raw then some a else none := by
  rw [matched_mark, only, List.find?_singleton]

/-- A problem with one alternative accepts what that matches. -/
lemma accepts_only_iff : (p.only a).Accepts rules raw ↔ a.accepts rules raw = true := by
  rw [accepts_iff, only, List.exists_mem_cons_iff]
  simp [Alternative.accepts]

/-- An answer earns what it earns for the alternative that decides, alone, but for the solution and
what is told of divisions by zero. -/
lemma mark_eq_of_matched (h : (p.mark rules raw).matched = some a) :
    p.mark rules raw = { (p.only a).mark rules raw with
      solution := p.solution?
      diagnostics := (p.mark rules raw).diagnostics } := by
  have haccepts : a.accepts rules raw = true :=
    List.find?_some ((matched_mark rules p raw).symm.trans h)
  have honly : ((p.only a).mark rules raw).matched = some a := by
    rw [matched_mark_only, if_pos haccepts]
  rw [mark_eq_creditMark honly]
  exact mark_eq_creditMark h

end Problem

/-- **The first match decides**: if some alternative accepts an answer alone, then the answer earns
what it earns for the first such alternative alone, but for the solution, which is that of the
problem. If none does, it is incorrect. What is told of divisions by zero is that of the answer and
then that of the values up to this alternative, or of all values. The answer is shown in normal
form. -/
theorem mark_eq_mark_only (rules : Rules) (p : Problem) (raw : Text) :
    (∀ i (hi : i < p.alternatives.length),
        IsLeast {j | ∃ hj : j < p.alternatives.length,
          (p.only p.alternatives[j]).Accepts rules raw} i →
        p.mark rules raw = { (p.only p.alternatives[i]).mark rules raw with
          solution := p.solution?
          diagnostics := diagnosticsOf rules
            (raw :: (p.alternatives.take (i + 1)).map Alternative.value) })
      ∧ ((∀ a ∈ p.alternatives, ¬ (p.only a).Accepts rules raw) →
        p.mark rules raw = p.incorrectMark rules (normalize rules raw).text
          (diagnosticsOf rules (raw :: p.alternatives.map Alternative.value)))
      ∧ (p.mark rules raw).answer = (normalize rules raw).text := by
  simp only [Problem.accepts_only_iff, Bool.not_eq_true]
  refine ⟨fun i hi hleast => ?_, fun hnone => ?_, p.answer_mark rules raw⟩
  · obtain ⟨⟨hlength, haccepts⟩, hfirst⟩ := hleast
    -- the search stops at this index
    have hindex : p.alternatives.findIdx (Alternative.accepts rules raw) = i := by
      refine (List.findIdx_eq hi).mpr ⟨haccepts, fun j hj => ?_⟩
      rw [← Bool.not_eq_true]
      exact fun hearlier => (hfirst ⟨hj.trans hi, hearlier⟩).not_gt hj
    have hmatched : (p.mark rules raw).matched = some p.alternatives[i] := by
      rw [Problem.matched_mark, List.find?_eq_getElem?_findIdx, hindex]
      exact List.getElem?_eq_getElem hi
    have hdiagnostics := p.diagnostics_mark rules raw
    rw [Problem.triedValues, hindex] at hdiagnostics
    rw [Problem.mark_eq_of_matched hmatched, hdiagnostics]
  · -- the search goes through all alternatives
    have hindex : p.alternatives.findIdx (Alternative.accepts rules raw) = p.alternatives.length :=
      List.findIdx_eq_length_of_false hnone
    have hmatched : (p.mark rules raw).matched = none := by
      rw [Problem.matched_mark, List.find?_eq_getElem?_findIdx, hindex]
      exact List.getElem?_eq_none le_rfl
    have hdiagnostics := p.diagnostics_mark rules raw
    rw [Problem.triedValues, hindex, List.take_of_length_le (by omega)] at hdiagnostics
    rw [Problem.mark_eq_incorrectMark hmatched, hdiagnostics]

/-- An answer within a range that stands between a fraction by zero and the answer itself. -/
theorem mark_eq_mark_only_within_range :
    let p : Problem := ⟨"1".toList, [.ofTags "5/0".toList [],
      .ofTags "50".toList [.range 0 5, .ratio 0.5], .ofTags "50".toList []]⟩
    let raw := "50".toList
    IsLeast {j | ∃ hj : j < p.alternatives.length, (p.only p.alternatives[j]).Accepts {} raw} 1
      ∧ (p.mark {} raw).verdict = .partialCredit ∧ (p.mark {} raw).points = 0.5
      ∧ (p.mark {} raw).solution = some "5/0".toList
      ∧ (p.mark {} raw).diagnostics = ["division by zero in '5/0'".toList] := by
  intro p raw
  have hleast : IsLeast {j | ∃ hj : j < p.alternatives.length,
      (p.only p.alternatives[j]).Accepts {} raw} 1 := by
    refine ⟨⟨by decide, Problem.accepts_only_iff.mpr (by decide +kernel)⟩, ?_⟩
    rintro j ⟨hj, haccepts⟩
    rw [Problem.accepts_only_iff] at haccepts
    have hfraction : Alternative.accepts {} raw (.ofTags "5/0".toList []) = false := by
      decide +kernel
    cases j with
    | zero => exact absurd (hfraction.symm.trans haccepts) (by decide)
    | succ j => exact Nat.le_add_left 1 j
  have hmark := (mark_eq_mark_only {} p raw).1 1 (by decide) hleast
  refine ⟨hleast, ?_⟩
  rw [hmark]
  exact ⟨by decide +kernel, by decide +kernel, by decide +kernel, by decide +kernel⟩

end Grading
