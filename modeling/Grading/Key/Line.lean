/-
Numbered lines, which keys and submissions are made of: `16a. some text`. The number is a row of
ASCII letters and digits in front of the first point. A line without one is text as a whole and is
numbered by its position among the lines that are not blank.

* `splitNumber`: the number and the text of a line;
* `NumberedLine`, `numberedLines`: the lines of a file.
-/
import Grading.Decimal.Digits
import Grading.Text.Lines

namespace Grading

/-- Whether the text can number a line. -/
def isLabel (s : Text) : Bool := !s.isEmpty && s.all Char.isAlphanum

/-- The number and the text of a line, both trimmed, if the line has a number. -/
def numbered? (line : Text) : Option (Text × Text) :=
  match line.trim.cut? '.' with
  | none => none
  | some (label, rest) => if isLabel label.trim then some (label.trim, rest.trim) else none

/-- The number of a line, if it has one, and its text. -/
def splitNumber (line : Text) : Option Text × Text :=
  match numbered? line with
  | some (label, rest) => (some label, rest)
  | none => (none, line.trim)

/-- A line of a key or a submission. -/
structure NumberedLine where
  /-- The number as it is written, or the position of the line. -/
  number : Text
  /-- The text after the number. -/
  text : Text
deriving DecidableEq, Repr

/-- The line that stands at a position, counted from one. -/
def NumberedLine.at (position : Nat) (line : Text) : NumberedLine :=
  let (number, text) := splitNumber line
  ⟨number.getD (Decimal.digits position), text⟩

/-- The numbered lines of a text, in order. -/
def numberedLines (s : Text) : List NumberedLine :=
  (Text.writtenLines s).mapIdx fun i line => NumberedLine.at (i + 1) line

/-- An answer key: one line for each problem, in order. -/
abbrev Key := List NumberedLine

/-- The key that a text writes. -/
def Key.ofText (s : Text) : Key := numberedLines s

/-- A response file without answers: one numbered line for each problem. -/
def responseTemplate (numbers : List Text) : Text :=
  numbers.flatMap fun number => number ++ ". \n".toList

end Grading
