/-
Numbered lines in the order of their problem numbers:

* `orderedBefore`: the order, with lines that have no problem number at the end;
* `sortLines`: the lines of a text in that order, without blank ones.
-/
import Grading.Numbering.Basic

namespace Grading

/-- Whether a line may come before another. Those without a problem number come last. -/
def orderedBefore : Option ProblemNumber → Option ProblemNumber → Bool
  | _, none => true
  | none, some _ => false
  | some p, some q => p.le q

/-- The lines that are not blank, sorted by problem number. Lines of the same number, and lines
without one, stay in their order. -/
def sortedLines (s : Text) : List Text :=
  (Text.writtenLines s).mergeSort fun a b =>
    orderedBefore (ProblemNumber.ofLine? a) (ProblemNumber.ofLine? b)

/-- The text with its lines sorted, each with a line end. -/
def sortLines (s : Text) : Text := (sortedLines s).flatMap fun line => line ++ ['\n']

end Grading
