/-
What stops the grading of a submission:

* `TagFault`: what is wrong with a tag of the key;
* `GradingError`: a tag that cannot be read, or a key that ends before the submission does;
* `GradingError.message`: how it is told.
-/
import Grading.Text.Basic

namespace Grading

/-- What is wrong with a tag. -/
inductive TagFault where
  /-- A bound of a range is not a number. -/
  | badBound (bound : Text)
  /-- A range has neither one bound nor two with `to` between them. -/
  | badRange
  /-- A number is not between minus one and one, and no range either. -/
  | badRatio
deriving DecidableEq, Repr

/-- What is told about the tag. -/
def TagFault.reason : TagFault → Text
  | .badBound bound =>
    "has a range bound '".toList ++ bound ++ "' that is not a number".toList
  | .badRange => "is not of the form 'range N' or 'range N to M'".toList
  | .badRatio => "is numeric but is neither a range nor a credit ratio in (-1, 1)".toList

/-- What stops the grading of a submission. -/
inductive GradingError where
  /-- A tag of the key cannot be read. -/
  | malformed (problem tag : Text) (fault : TagFault)
  /-- The key has no line for a line of the submission. -/
  | exhausted (problem : Text)
deriving DecidableEq, Repr

/-- The grammar of a key line, as authors are shown it. -/
def tagGrammar : Text :=
  "N. VALUE ; range NUMBER ; range NUMBER to NUMBER ; PARTIAL CREDIT RATIO ; FEEDBACK".toList

/-- How the error is told. -/
def GradingError.message : GradingError → Text
  | .malformed problem tag fault =>
    "formatting issue in answer key problem ".toList ++ problem ++ ": tag '".toList ++ tag
      ++ "' ".toList ++ fault.reason ++ "; expected ".toList ++ tagGrammar
  | .exhausted problem =>
    "answer key has fewer entries than the student file (no solution for problem ".toList
      ++ problem ++ [')']

end Grading
