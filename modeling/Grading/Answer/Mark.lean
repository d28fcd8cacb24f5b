/-
What an answer earns:

* `Verdict`: correct, worth partial credit, or incorrect;
* `Mark`: the verdict with points, feedback and what was compared;
* `Problem.unansweredMark`: the mark of a problem without an answer.
-/
import Grading.Problem.Basic
import Grading.Rules

namespace Grading

/-- How an answer is judged. -/
inductive Verdict where
  /-- It matches an alternative with full credit. -/
  | correct
  /-- It matches an alternative with less credit. -/
  | partialCredit
  /-- It matches none. -/
  | incorrect
deriving DecidableEq, Repr

/-- What an answer earns. -/
structure Mark where
  /-- How the answer is judged. -/
  verdict : Verdict
  /-- The points that are awarded. -/
  points : Float
  /-- The points of a correct answer. -/
  maxPoints : Float
  /-- The answer in normal form. -/
  answer : Text
  /-- The alternative that it matches. -/
  matched : Option Alternative
  /-- The answer that students are shown. -/
  solution : Option Text
  /-- What the student is told. -/
  feedback : Text
  /-- What went wrong without stopping the grading. -/
  diagnostics : List Text

/-- What is told about an answer that matches nothing. -/
def solutionFeedback : Option Text → Text
  | some solution => "Solution: ".toList ++ solution
  | none => []

/-- The mark of an answer that matches none of the alternatives. -/
def Problem.incorrectMark (rules : Rules) (p : Problem) (answer : Text)
    (diagnostics : List Text) : Mark where
  verdict := .incorrect
  points := 0
  maxPoints := rules.pointValue
  answer := answer
  matched := none
  solution := p.solution?
  feedback := solutionFeedback p.solution?
  diagnostics := diagnostics

/-- The mark of an answer that matches the alternative `a`. -/
def Problem.creditMark (rules : Rules) (p : Problem) (a : Alternative) (answer : Text)
    (diagnostics : List Text) : Mark where
  verdict := if a.ratio < 1 then .partialCredit else .correct
  points := rules.pointValue * a.ratio
  maxPoints := rules.pointValue
  answer := answer
  matched := some a
  solution := p.solution?
  feedback := a.feedback
  diagnostics := diagnostics

/-- The mark of a problem without an answer. -/
def Problem.unansweredMark (rules : Rules) (p : Problem) : Mark := p.incorrectMark rules [] []

end Grading
