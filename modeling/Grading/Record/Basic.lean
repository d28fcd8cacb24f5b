/-
Outcomes as they are kept in report files, each with an identifier and the time at which it was
made.

* `Stamp`: the identifier and the time;
* `ReportRecord`, `BatchRecord`: a report and the outcome of a batch with their stamps;
* `BatchRecord.batch`: the outcome without the stamps.
-/
import Grading.Batch.Basic
import Grading.Record.Instant
import Grading.Record.Uuid

namespace Grading

/-- When something was made, and how it is told apart from all else. -/
structure Stamp where
  /-- The identifier. -/
  id : Uuid
  /-- The time. -/
  time : Instant
deriving DecidableEq, Repr

/-- A report with its stamp. -/
structure ReportRecord where
  /-- The stamp. -/
  stamp : Stamp
  /-- The report. -/
  report : Report

/-- The outcome of a batch as it is kept. -/
structure BatchRecord where
  /-- The stamp. -/
  stamp : Stamp
  /-- The name of the assignment. -/
  assignment : Text
  /-- The graded submissions. -/
  graded : List ReportRecord
  /-- The submissions that could not be graded. -/
  failures : List Failure
  /-- How long the grading took, in milliseconds. -/
  duration : UInt64

namespace BatchRecord

/-- The outcome without the stamps. -/
def batch (r : BatchRecord) : Batch where
  assignment := r.assignment
  graded := r.graded.map ReportRecord.report
  failures := r.failures

/-- The record of an outcome. The stamps of the reports are taken in order; a report beyond them
has that of the batch. -/
def ofBatch (stamp : Stamp) (stamps : List Stamp) (duration : UInt64) (b : Batch) :
    BatchRecord where
  stamp := stamp
  assignment := b.assignment
  graded := b.graded.mapIdx fun i r => ⟨stamps.getD i stamp, r⟩
  failures := b.failures
  duration := duration

end BatchRecord

end Grading
