/-
How submissions are graded several at a time. A submission waits until fewer are being graded than
may be, is graded, and its outcome is collected at some time after that. When all outcomes are
collected the batch is closed. Nothing but the number of submissions that are being graded at a
time is fixed: which one is next is open at every step.

* `Schedule`: how far the submissions of a batch are;
* `Schedule.Step`: one step;
* `Schedule.Reachable`: what any number of steps can lead to.
-/
import Grading.Batch.Basic

namespace Grading

/-- How far the submissions of a batch are. -/
structure Schedule where
  /-- The submissions that wait. -/
  waiting : List Submission
  /-- The submissions that are being graded. -/
  grading : List Submission
  /-- What came of submissions, and is not collected yet. -/
  finished : List Outcome
  /-- What is collected, in order. -/
  collected : List Outcome
  /-- What was told, in order. -/
  told : List Progress
  /-- What came of the whole batch, when it is closed. -/
  result? : Option Batch

namespace Schedule

/-- How many submissions may be graded at a time. At least one may. -/
def permits (parallelism : Nat) : Nat := max 1 parallelism

/-- One step in grading a batch. -/
inductive Step (rules : Rules) (assignment : Text) (key : Key) (parallelism : Nat) :
    Schedule → Schedule → Prop where
  /-- A submission that waits is taken, if there is a permit left for it. -/
  | start (before after grading : List Submission) (s : Submission)
      (finished collected : List Outcome) (told : List Progress)
      (room : grading.length < permits parallelism) :
      Step rules assignment key parallelism
        ⟨before ++ s :: after, grading, finished, collected, told, none⟩
        ⟨before ++ after, s :: grading, finished, collected, told, none⟩
  /-- A submission is graded, which frees its permit. -/
  | finish (waiting before after : List Submission) (s : Submission)
      (finished collected : List Outcome) (told : List Progress) :
      Step rules assignment key parallelism
        ⟨waiting, before ++ s :: after, finished, collected, told, none⟩
        ⟨waiting, before ++ after, .ofSubmission rules key s :: finished, collected, told, none⟩
  /-- An outcome is collected and told. -/
  | collect (waiting grading : List Submission) (before after collected : List Outcome)
      (o : Outcome) (told : List Progress) :
      Step rules assignment key parallelism
        ⟨waiting, grading, before ++ o :: after, collected, told, none⟩
        ⟨waiting, grading, before ++ after, collected ++ [o], told ++ [o.progress], none⟩
  /-- All outcomes are collected, and the batch is closed. -/
  | close (collected : List Outcome) (told : List Progress) :
      Step rules assignment key parallelism
        ⟨[], [], [], collected, told, none⟩
        ⟨[], [], [], collected, told ++ [completion collected],
          some (.collect assignment collected)⟩

end Schedule

end Grading
