/-
The lines of a text. A line ends at a line feed, which belongs to no line, and a carriage return
right before the line feed belongs to the line end. The last line may go without a line end; an
empty rest after the last line feed is no line.

* `lines`: the lines in order;
* `writtenLines`: the lines that hold more than blanks.
-/
import Grading.Text.Blank

namespace Grading

namespace Text

/-- The text without one carriage return at its end, if there is one. -/
def dropReturn (s : Text) : Text :=
  match ['\r'].isSuffixOf? s with
  | some t => t
  | none => s

/-- The lines, given the pieces between the line feeds. Only a piece that a line feed follows has
a line end to lose. -/
def linesOfPieces : List Text → List Text
  | [] => []
  | [rest] => if rest.isEmpty then [] else [rest]
  | piece :: pieces => dropReturn piece :: linesOfPieces pieces

/-- The lines of a text. -/
def lines (s : Text) : List Text := linesOfPieces (s.pieces '\n')

/-- The lines that hold more than blanks, in order. -/
def writtenLines (s : Text) : List Text := (lines s).filter fun line => !blankLine line

end Text

end Grading
