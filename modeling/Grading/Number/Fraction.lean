/-
Answers that write a fraction: two signed decimals around a slash, each possibly with blanks around
it. Only the first slash counts, so a second one leaves no number after it and the text is no
fraction.

* `DivisionByZero`: a fraction whose denominator is zero;
* `quotient?`: the quotient of a fraction, rounded to two places.
-/
import Grading.Number.Numeral
import Grading.Number.Places
import Grading.Text.Blank

namespace Grading

/-- A fraction whose denominator is zero. -/
structure DivisionByZero where
  /-- The whole fraction as it was given. -/
  fraction : Text
deriving DecidableEq, Repr

/-- How a division by zero is reported. -/
def DivisionByZero.message (e : DivisionByZero) : Text :=
  "division by zero in '".toList ++ e.fraction ++ ['\'']

/-- The two numbers of a fraction. -/
def fractionParts? (s : Text) : Option (Float × Float) := do
  let (numerator, denominator) ← s.cut? '/'
  return (← readNumber? numerator.trim, ← readNumber? denominator.trim)

/-- The quotient of a fraction, rounded to two places; `none` if the text is no fraction. -/
def quotient? (s : Text) : Except DivisionByZero (Option Text) :=
  match fractionParts? s with
  | none => .ok none
  | some (numerator, denominator) =>
    if denominator == 0 then .error ⟨s⟩ else .ok (some (twoPlaces (numerator / denominator)))

end Grading
