/-
Report files: records as JSON text.

* `BatchRecord.toJson`, `BatchRecord.save`: how a record is written;
* `BatchRecord.ofJson?`, `BatchRecord.load?`: how it is read. A matched alternative and a solution
  may be missing; feedback, tolerance and diagnostics have defaults; everything else has to be
  there.
-/
import Grading.Json.Fields
import Grading.Record.Basic

namespace Grading

open Json (ofText ofFloat ofFields Fields)

/-! ### Alternatives -/

/-- The names of the fields of an alternative. -/
def Alternative.fieldNames : List String :=
  ["value", "is_numeric", "partial_credit_ratio", "range_min", "range_max", "has_range",
   "auto_feedback"]

/-- An alternative as JSON. -/
def Alternative.toJson (a : Alternative) : Json :=
  ofFields
    [("value", ofText a.value), ("is_numeric", .bool a.isNumeric),
     ("partial_credit_ratio", ofFloat a.ratio), ("range_min", ofFloat a.low),
     ("range_max", ofFloat a.high), ("has_range", .bool a.hasRange),
     ("auto_feedback", ofText a.feedback)]

/-- Reads an alternative. -/
def Alternative.ofJson? (j : Json) : Option Alternative := do
  let f ← j.fields? fieldNames
  return {
    value := ← f.needed "value" Json.text?
    isNumeric := ← f.needed "is_numeric" Json.bool?
    ratio := ← f.needed "partial_credit_ratio" Json.float?
    low := ← f.needed "range_min" Json.float?
    high := ← f.needed "range_max" Json.float?
    hasRange := ← f.defaulted "has_range" false Json.bool?
    feedback := ← f.defaulted "auto_feedback" [] Json.text? }

/-! ### Marks -/

/-- The word for a verdict. -/
def Verdict.word : Verdict → Text
  | .correct => "correct".toList
  | .partialCredit => "partial".toList
  | .incorrect => "incorrect".toList

/-- The verdict that a word stands for. -/
def Verdict.ofWord? (w : Text) : Option Verdict :=
  [Verdict.correct, .partialCredit, .incorrect].find? fun v => v.word = w

/-- Reads a verdict: its word, or its word as the only name, with nothing to it. -/
def Verdict.ofJson? : Json → Option Verdict
  | .object [(name, .null)] => (Json.unescape? name).bind ofWord?
  | j => j.text?.bind ofWord?

/-- The names of the fields of a mark. -/
def Mark.fieldNames : List String :=
  ["status", "points_awarded", "max_points", "student_answer", "matched_alternative",
   "canonical_answer", "feedback_text", "diagnostics"]

/-- A mark as JSON. -/
def Mark.toJson (m : Mark) : Json :=
  ofFields
    [("status", ofText m.verdict.word), ("points_awarded", ofFloat m.points),
     ("max_points", ofFloat m.maxPoints), ("student_answer", ofText m.answer),
     ("matched_alternative", Json.ofOption Alternative.toJson m.matched),
     ("canonical_answer", Json.ofOption ofText m.solution), ("feedback_text", ofText m.feedback),
     ("diagnostics", .array (m.diagnostics.map ofText))]

/-- Reads a mark. -/
def Mark.ofJson? (j : Json) : Option Mark := do
  let f ← j.fields? fieldNames
  return {
    verdict := ← f.needed "status" Verdict.ofJson?
    points := ← f.needed "points_awarded" Json.float?
    maxPoints := ← f.needed "max_points" Json.float?
    answer := ← f.needed "student_answer" Json.text?
    matched := ← f.optional "matched_alternative" Alternative.ofJson?
    solution := ← f.optional "canonical_answer" Json.text?
    feedback := ← f.needed "feedback_text" Json.text?
    diagnostics := ← f.defaulted "diagnostics" [] (Json.list? Json.text?) }

/-- The names of the fields of a marked problem. -/
def ProblemMark.fieldNames : List String := ["number", "answered", "result"]

/-- A marked problem as JSON. -/
def ProblemMark.toJson (p : ProblemMark) : Json :=
  ofFields
    [("number", ofText p.number), ("answered", .bool p.answered), ("result", p.mark.toJson)]

/-- Reads a marked problem. -/
def ProblemMark.ofJson? (j : Json) : Option ProblemMark := do
  let f ← j.fields? fieldNames
  return {
    number := ← f.needed "number" Json.text?
    answered := ← f.needed "answered" Json.bool?
    mark := ← f.needed "result" Mark.ofJson? }

/-! ### Reports -/

/-- Reads an identifier. -/
def Uuid.ofJson? (j : Json) : Option Uuid := j.text?.bind Uuid.ofText?

/-- Reads a point in time. -/
def Instant.ofJson? (j : Json) : Option Instant := j.text?.bind Instant.ofText?

/-- Reads the stamp among the fields of a record. -/
def Stamp.ofFields? (f : Fields) : Option Stamp := do
  return ⟨← f.needed "id" Uuid.ofJson?, ← f.needed "created_at" Instant.ofJson?⟩

/-- The names of the fields of a report. -/
def ReportRecord.fieldNames : List String :=
  ["id", "created_at", "student", "problems", "total_points", "max_points"]

/-- A report as JSON. -/
def ReportRecord.toJson (r : ReportRecord) : Json :=
  ofFields
    [("id", ofText r.stamp.id.render), ("created_at", ofText r.stamp.time.render),
     ("student", ofText r.report.student),
     ("problems", .array (r.report.problems.map ProblemMark.toJson)),
     ("total_points", ofFloat r.report.total), ("max_points", ofFloat r.report.maxPoints)]

/-- Reads a report. -/
def ReportRecord.ofJson? (j : Json) : Option ReportRecord := do
  let f ← j.fields? fieldNames
  return {
    stamp := ← Stamp.ofFields? f
    report := {
      student := ← f.needed "student" Json.text?
      problems := ← f.needed "problems" (Json.list? ProblemMark.ofJson?)
      total := ← f.needed "total_points" Json.float?
      maxPoints := ← f.needed "max_points" Json.float? } }

/-- The names of the fields of a failure. -/
def Failure.fieldNames : List String := ["student", "error"]

/-- A failure as JSON. -/
def Failure.toJson (f : Failure) : Json :=
  ofFields [("student", ofText f.student), ("error", ofText f.error)]

/-- Reads a failure. -/
def Failure.ofJson? (j : Json) : Option Failure := do
  let f ← j.fields? fieldNames
  return ⟨← f.needed "student" Json.text?, ← f.needed "error" Json.text?⟩

/-! ### Batches -/

namespace BatchRecord

/-- The names of the fields of a batch. -/
def fieldNames : List String :=
  ["id", "created_at", "assignment", "graded", "failures", "duration_ms"]

/-- A batch as JSON. -/
def toJson (b : BatchRecord) : Json :=
  ofFields
    [("id", ofText b.stamp.id.render), ("created_at", ofText b.stamp.time.render),
     ("assignment", ofText b.assignment), ("graded", .array (b.graded.map ReportRecord.toJson)),
     ("failures", .array (b.failures.map Failure.toJson)), ("duration_ms", .ofWord b.duration)]

/-- Reads a batch. -/
def ofJson? (j : Json) : Option BatchRecord := do
  let f ← j.fields? fieldNames
  return {
    stamp := ← Stamp.ofFields? f
    assignment := ← f.needed "assignment" Json.text?
    graded := ← f.needed "graded" (Json.list? ReportRecord.ofJson?)
    failures := ← f.needed "failures" (Json.list? Failure.ofJson?)
    duration := ← f.needed "duration_ms" Json.word? }

/-- The text of a report file. -/
def save (b : BatchRecord) : Text := b.toJson.render

/-- Reads the text of a report file. -/
def load? (s : Text) : Option BatchRecord := (Json.read? s).bind ofJson?

end BatchRecord

end Grading
