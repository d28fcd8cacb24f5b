/-
Grading many submissions against one key. Each submission is graded by itself, so that one that
fails changes nothing for the others.

* `Failure`, `Batch`: the outcome, sorted by student;
* `Batch.grade`: grades submissions;
* `Batch.mean`: the mean share of the points;
* `Progress`, `batchEvents`: what is told and what is logged on the way.
-/
import Grading.Submission.Basic

namespace Grading

/-- A submission that could not be graded. -/
structure Failure where
  /-- The name of the student. -/
  student : Text
  /-- Why it could not be graded. -/
  error : Text
deriving DecidableEq, Repr

/-- The outcome of grading many submissions against one key. -/
structure Batch where
  /-- The name of the assignment. -/
  assignment : Text
  /-- The graded submissions, sorted by student. -/
  graded : List Report
  /-- The submissions that could not be graded, sorted by student. -/
  failures : List Failure

/-- What is told while submissions are graded. -/
inductive Progress where
  /-- A submission was graded. -/
  | graded (report : Report)
  /-- A submission could not be graded. -/
  | failed (failure : Failure)
  /-- All submissions are done. -/
  | complete (graded failed : Nat)

/-- What comes of a submission. -/
inductive Outcome where
  /-- It was graded. -/
  | graded (report : Report)
  /-- It could not be graded. -/
  | failed (failure : Failure)

namespace Outcome

/-- What comes of grading a submission. -/
def ofSubmission (rules : Rules) (key : Key) (s : Submission) : Outcome :=
  match s.grade rules key with
  | .ok report => graded report
  | .error e => failed ⟨s.student, e.message⟩

/-- The report, if there is one. -/
def report? : Outcome → Option Report
  | graded r => some r
  | failed _ => none

/-- The failure, if it is one. -/
def failure? : Outcome → Option Failure
  | graded _ => none
  | failed f => some f

/-- What is told about it. -/
def progress : Outcome → Progress
  | graded r => .graded r
  | failed f => .failed f

end Outcome

namespace Batch

/-- Collects outcomes in the order in which the submissions were finished. Students of the same
name stay in that order. -/
def collect (assignment : Text) (outcomes : List Outcome) : Batch where
  assignment := assignment
  graded := (outcomes.filterMap Outcome.report?).mergeSort fun r s => Text.le r.student s.student
  failures :=
    (outcomes.filterMap Outcome.failure?).mergeSort fun f g => Text.le f.student g.student

/-- Grades submissions against a key. -/
def grade (rules : Rules) (assignment : Text) (key : Key) (submissions : List Submission) :
    Batch :=
  collect assignment (submissions.map (Outcome.ofSubmission rules key))

/-- The mean share of the points; zero if nothing was graded. -/
def mean (b : Batch) : Float :=
  if b.graded.isEmpty then 0
  else sum (b.graded.map Report.percentage) / Float.ofNat b.graded.length

end Batch

/-- The notice that all submissions are done. -/
def completion (outcomes : List Outcome) : Progress :=
  .complete (outcomes.filterMap Outcome.report?).length
    (outcomes.filterMap Outcome.failure?).length

/-- What is told while submissions are graded: one notice for each, and one at the end. -/
def batchProgress (rules : Rules) (key : Key) (submissions : List Submission) : List Progress :=
  let outcomes := submissions.map (Outcome.ofSubmission rules key)
  outcomes.map Outcome.progress ++ [completion outcomes]

/-- What is logged while a submission of a batch is graded. -/
def submissionEvents (rules : Rules) (key : Key) (s : Submission) : List Event :=
  s.events rules key ++
    match s.grade rules key with
    | .ok _ => []
    | .error e => [.failed s.student e]

/-- What is logged while submissions are graded. -/
def batchEvents (rules : Rules) (key : Key) (submissions : List Submission) : List Event :=
  submissions.flatMap (submissionEvents rules key)

end Grading
