/-
What is logged while answers are graded:

* `Event`: the things that are logged;
* `Event.level`, `Event.message`: how important each is, and how it is told.
-/
import Grading.Answer.Match
import Grading.Number.Fraction

namespace Grading

/-- How important a log event is. -/
inductive Level where
  /-- For tracing a decision. -/
  | debug
  /-- For information. -/
  | info
  /-- For something that may be a mistake. -/
  | warn
  /-- For something that failed. -/
  | error
deriving DecidableEq, Repr

/-- The name of the level. -/
def Level.name : Level → Text
  | .debug => "DEBUG".toList
  | .info => "INFO".toList
  | .warn => "WARN".toList
  | .error => "ERROR".toList

/-- What is logged while answers are graded. -/
inductive Event where
  /-- A fraction stays as it is because its denominator is zero. -/
  | unconverted (fault : DivisionByZero)
  /-- An answer matches an alternative. -/
  | matched (problem answer alternative : Text) (kind : MatchKind)
  /-- An answer matches no alternative. -/
  | unmatched (problem answer : Text)
  /-- The number of an answer is not that of the key line it is graded against. -/
  | misnumbered (student answered expected : Text)
  /-- A key line that the student never reached cannot be read. -/
  | unreadable (error : GradingError)
  /-- A submission cannot be graded. -/
  | failed (student : Text) (error : GradingError)
deriving DecidableEq, Repr

namespace Event

/-- How important the event is. -/
def level : Event → Level
  | unconverted _ => .warn
  | matched .. => .debug
  | unmatched .. => .debug
  | misnumbered .. => .warn
  | unreadable _ => .warn
  | failed .. => .error

/-- How the event is told. -/
def message : Event → Text
  | unconverted fault => fault.message ++ "; leaving answer unconverted".toList
  | matched .. => "matched".toList
  | unmatched .. => "no alternative matched".toList
  | misnumbered student answered expected =>
    student ++ ": answer numbered ".toList ++ answered
      ++ " is graded against answer-key problem ".toList ++ expected
  | unreadable error => error.message
  | failed student error => "grading failed for ".toList ++ student ++ ": ".toList ++ error.message

end Event

end Grading
