/-
What is collected of the submissions of a batch.

* `report?_ofSubmission`, `failure?_ofSubmission`: a submission is graded or fails as it does by
  itself;
* `Batch.Settles`: a batch in which every submission stands once, with what comes of it by itself,
  in the order of the students;
* `settles_collect`, `settles_grade`: outcomes give such a batch in whatever order they are
  collected;
* `Settles.mem_graded_iff`: its reports are those of the submissions that can be graded;
* `collect_eq_of_perm`: if no two students have the same name, they give the same batch.
-/
import Grading.Batch.Basic
import Grading.Proofs.Problem.Reading
import Grading.Proofs.Text.Order

namespace Grading

variable {rules : Rules} {assignment : Text} {key : Key} {submissions : List Submission}
  {outcomes outcomes' : List Outcome}

/-! ### One submission -/

namespace Outcome

/-- The student whose submission it is. -/
def student : Outcome → Text
  | graded report => report.student
  | failed failure => failure.student

lemma report?_ofSubmission (rules : Rules) (key : Key) (s : Submission) :
    (ofSubmission rules key s).report? = (s.grade rules key).toOption := by
  rw [ofSubmission]
  cases s.grade rules key <;> rfl

lemma failure?_ofSubmission (rules : Rules) (key : Key) (s : Submission) :
    (ofSubmission rules key s).failure?
      = (errorOf (s.grade rules key)).map fun e => ⟨s.student, e.message⟩ := by
  rw [ofSubmission]
  cases s.grade rules key <;> rfl

/-- Parts of outcomes, sorted, are those of the submissions in some order, if the part of an outcome
is that of its submission. -/
lemma perm_mergeSort_filterMap {β : Type} {part? : Outcome → Option β}
    {ownPart? : Submission → Option β} (le : β → β → Bool)
    (hpart : ∀ s, part? (ofSubmission rules key s) = ownPart? s)
    (h : outcomes.Perm (submissions.map (ofSubmission rules key))) :
    ((outcomes.filterMap part?).mergeSort le).Perm (submissions.filterMap ownPart?) := by
  have hparts := h.filterMap part?
  rw [List.filterMap_map] at hparts
  refine (List.mergeSort_perm _ _).trans (hparts.trans (List.Perm.of_eq ?_))
  exact List.filterMap_congr fun s _ => hpart s

end Outcome

lemma toOption_eq_some_iff {ε α : Type} {x : Except ε α} {a : α} :
    x.toOption = some a ↔ x = .ok a := by
  cases x <;> simp [Except.toOption]

/-! ### The batch -/

namespace Batch

/-- Every submission stands in the batch once, graded or failed as it is by itself, and both lists
are in the order of the students. -/
structure Settles (rules : Rules) (assignment : Text) (key : Key) (submissions : List Submission)
    (b : Batch) : Prop where
  assignment_eq : b.assignment = assignment
  graded_perm : b.graded.Perm (submissions.filterMap fun s => (s.grade rules key).toOption)
  failures_perm : b.failures.Perm (submissions.filterMap fun s =>
    (errorOf (s.grade rules key)).map fun e => ⟨s.student, e.message⟩)
  graded_sorted : b.graded.Pairwise fun r s => Text.le r.student s.student = true
  failures_sorted : b.failures.Pairwise fun f g => Text.le f.student g.student = true

/-- The outcomes of the submissions settle the batch in whatever order they are collected. -/
lemma settles_collect
    (h : outcomes.Perm (submissions.map (Outcome.ofSubmission rules key))) :
    (collect assignment outcomes).Settles rules assignment key submissions where
  assignment_eq := rfl
  graded_perm :=
    Outcome.perm_mergeSort_filterMap _ (Outcome.report?_ofSubmission rules key) h
  failures_perm :=
    Outcome.perm_mergeSort_filterMap _ (Outcome.failure?_ofSubmission rules key) h
  graded_sorted := Text.pairwise_mergeSort_le Report.student _
  failures_sorted := Text.pairwise_mergeSort_le Failure.student _

lemma settles_grade :
    (grade rules assignment key submissions).Settles rules assignment key submissions :=
  settles_collect (.refl _)

/-- The reports of a batch are those of the submissions that can be graded. -/
lemma Settles.mem_graded_iff {b : Batch} {report : Report}
    (h : b.Settles rules assignment key submissions) :
    report ∈ b.graded ↔ ∃ s ∈ submissions, s.grade rules key = .ok report := by
  rw [h.graded_perm.mem_iff, List.mem_filterMap]
  simp [toOption_eq_some_iff]

end Batch

end Grading
