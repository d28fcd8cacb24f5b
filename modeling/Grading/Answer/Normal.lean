/-
The normal form in which an answer is compared: without blanks at its ends, in lower case, without
any blanks unless spacing counts, and as a decimal if it is a fraction and fractions are converted.

* `Normal`: a text in normal form, with what went wrong on the way;
* `normalize`: the normal form of a text.
-/
import Grading.Number.Fraction
import Grading.Rules
import Grading.Text.Case

namespace Grading

/-- A text in normal form. -/
structure Normal where
  /-- The text that is compared. -/
  text : Text
  /-- The fraction that could not be converted, if there was one. -/
  fault : Option DivisionByZero
deriving DecidableEq, Repr

/-- A text in lower case, with the blanks that count. -/
def foldCase (rules : Rules) (s : Text) : Text :=
  if rules.preserveSpacing then s.trim.lower else s.trim.lower.squeeze

/-- The normal form of a text that is in lower case: a fraction becomes its quotient, and one that
divides by zero stays as it is. -/
def convertFraction (rules : Rules) (s : Text) : Normal :=
  if rules.convertFractions then
    match quotient? s with
    | .ok (some decimal) => ⟨decimal, none⟩
    | .ok none => ⟨s, none⟩
    | .error fault => ⟨s, some fault⟩
  else
    ⟨s, none⟩

/-- The normal form of a text. -/
def normalize (rules : Rules) (s : Text) : Normal := convertFraction rules (foldCase rules s)

end Grading
