/-
The report of a graded submission:

* `ProblemMark`, `Report`: the marks of all problems in the order of the key, with their sums;
* `Report.percentage`, `Report.count`: the share of the points, and how many problems got a verdict;
* `Report.text`: the grade file that goes back to the student.
-/
import Grading.Answer.Mark
import Grading.Number.Places

namespace Grading

/-- The mark of a problem of a submission. -/
structure ProblemMark where
  /-- The number under which the problem is listed. -/
  number : Text
  /-- Whether there is an answer. -/
  answered : Bool
  /-- What the answer earns. -/
  mark : Mark

/-- A graded submission. -/
structure Report where
  /-- The name of the student. -/
  student : Text
  /-- The marks in the order of the key. -/
  problems : List ProblemMark
  /-- The points that are awarded. -/
  total : Float
  /-- The points of a fully correct submission. -/
  maxPoints : Float

/-- The sum of numbers, added from the first to the last. The sum of none is negative zero, which
changes no number that is added to it. -/
def sum (xs : List Float) : Float := xs.foldl (· + ·) (-0.0)

namespace Report

/-- The report with the given marks. -/
def ofMarks (student : Text) (problems : List ProblemMark) : Report where
  student := student
  problems := problems
  total := sum (problems.map fun p => p.mark.points)
  maxPoints := sum (problems.map fun p => p.mark.maxPoints)

/-- The share of the points that is awarded; zero if there are none. -/
def percentage (r : Report) : Float := if r.maxPoints == 0 then 0 else r.total / r.maxPoints

/-- How many problems got the verdict. -/
def count (r : Report) (v : Verdict) : Nat := r.problems.countP fun p => p.mark.verdict = v

end Report

/-- The line of a grade file for a problem. -/
def ProblemMark.text (p : ProblemMark) : Text :=
  let m := p.mark
  let solution := m.solution.getD []
  match m.verdict with
  | .correct => p.number ++ ". Correct".toList
  | .partialCredit =>
    p.number ++ ". XXX Partial Credit: ".toList ++ points m.points ++ '/' :: points m.maxPoints
      ++ ". Student answer: ".toList ++ m.answer ++ ", Solution: ".toList ++ solution
      ++ ". ".toList ++ m.feedback
  | .incorrect =>
    p.number ++ ". XXX Incorrect: 0/".toList ++ points m.maxPoints ++ ". Student answer: ".toList
      ++ m.answer ++ ", Solution: ".toList ++ solution

/-- The points of a report, as they are shown. -/
def Report.score (r : Report) : Text := points r.total ++ " / ".toList ++ points r.maxPoints

/-- The grade file: the name, a line for each problem, and the score. -/
def Report.text (r : Report) : Text :=
  r.student ++ ":\n".toList ++ r.problems.flatMap (fun p => p.text ++ ['\n'])
    ++ "\nScore: ".toList ++ r.score

end Grading
