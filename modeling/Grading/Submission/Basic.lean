/-
Submissions and their grading. Lines of the submission and of the key are taken in pairs, in order.
A key line that cannot be read stops the grading when an answer reaches it, and so does an answer
that the key has no line for. Problems that no answer reaches count as unanswered.

* `Submission`, `studentName`: a student's answers, and the name that a file name tells;
* `marks`: the marks of all problems;
* `Submission.grade`: the report;
* `Submission.events`: what is logged on the way.
-/
import Grading.Answer.Grade
import Grading.Path
import Grading.Submission.Report

namespace Grading

/-- What a student handed in. -/
structure Submission where
  /-- The name of the student. -/
  student : Text
  /-- The text with the answers. -/
  text : Text
deriving DecidableEq, Repr

/-- The student's name in a file name: what stands before the first `_` or `-`, or the whole name
without its extension if nothing does, with the first letter in upper case. -/
def studentName (p : Path) : Text :=
  let stem := (Path.stem? p).getD []
  let name := stem.takeWhile fun c => c ≠ '_' && c ≠ '-'
  Text.capitalize (if name.isEmpty then stem else name)

/-- A problem that is listed as unanswered. -/
def unanswered (rules : Rules) (p : Problem) : ProblemMark :=
  ⟨p.number, false, p.unansweredMark rules⟩

/-- The mark of a line of the submission. A line without text is no answer. -/
def markLine (rules : Rules) (p : Problem) (answer : NumberedLine) : ProblemMark :=
  if answer.text.isEmpty then unanswered rules p
  else ⟨answer.number, true, p.mark rules answer.text⟩

/-- The mark of a key line that no answer reaches. One that cannot be read has no solution. -/
def leftOver (rules : Rules) (line : NumberedLine) : ProblemMark :=
  match Problem.ofKeyLine line with
  | .ok p => unanswered rules p
  | .error _ => unanswered rules ⟨line.number, []⟩

/-- The marks of all problems, given the lines of the submission and of the key. -/
def marks (rules : Rules) : List NumberedLine → Key → Except GradingError (List ProblemMark)
  | [], key => .ok (key.map (leftOver rules))
  | answer :: _, [] => .error (.exhausted answer.number)
  | answer :: answers, line :: key => do
    let p ← Problem.ofKeyLine line
    let others ← marks rules answers key
    return markLine rules p answer :: others

/-- What is logged about a key line that no answer reaches. -/
def leftOverEvents (line : NumberedLine) : List Event :=
  match Problem.ofKeyLine line with
  | .ok _ => []
  | .error e => [.unreadable e]

/-- What is logged about the numbers of an answer and of its key line. -/
def numberEvents (student : Text) (answer line : NumberedLine) : List Event :=
  if answer.number = line.number then [] else [.misnumbered student answer.number line.number]

/-- What is logged while the lines of a submission are graded against those of the key. -/
def lineEvents (rules : Rules) (student : Text) : List NumberedLine → Key → List Event
  | [], key => key.flatMap leftOverEvents
  | _ :: _, [] => []
  | answer :: answers, line :: key =>
    numberEvents student answer line ++
      match Problem.ofKeyLine line with
      | .error _ => []
      | .ok p =>
        (if answer.text.isEmpty then [] else p.events rules answer.text)
          ++ lineEvents rules student answers key

namespace Submission

/-- The report of the submission, graded against a key. -/
def grade (rules : Rules) (key : Key) (s : Submission) : Except GradingError Report :=
  (marks rules (numberedLines s.text) key).map (Report.ofMarks s.student)

/-- What is logged while the submission is graded. -/
def events (rules : Rules) (key : Key) (s : Submission) : List Event :=
  lineEvents rules s.student (numberedLines s.text) key

end Submission

end Grading
