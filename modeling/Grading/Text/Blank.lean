/-
White space, as the Unicode property White_Space has it, and what is done with it:

* `isBlank`: the 25 characters of the property;
* `trim`: the text without blanks at either end;
* `squeeze`: the text without any blank;
* `words`: the maximal runs of characters that are not blank.
-/
import Grading.Text.Ranges

namespace Grading

namespace Text

/-- The white-space characters, as closed ranges of code points, ascending and apart. -/
def blankRanges : List (Nat × Nat) :=
  [(0x09, 0x0D), (0x20, 0x20), (0x85, 0x85), (0xA0, 0xA0), (0x1680, 0x1680), (0x2000, 0x200A),
   (0x2028, 0x2029), (0x202F, 0x202F), (0x205F, 0x205F), (0x3000, 0x3000)]

/-- Whether a character is white space. -/
def isBlank (c : Char) : Bool := inRanges blankRanges c

/-- The text without the blanks it starts with. -/
def trimStart (s : Text) : Text := s.dropWhile isBlank

/-- The text without the blanks it ends with. -/
def trimEnd (s : Text) : Text := (s.reverse.dropWhile isBlank).reverse

/-- The text without the blanks at its ends. -/
def trim (s : Text) : Text := trimEnd (trimStart s)

/-- The text without its blanks, wherever they stand. -/
def squeeze (s : Text) : Text := s.filter fun c => !isBlank c

/-- The words of the text: what stands between blanks and is not empty. -/
def words (s : Text) : List Text := (s.splitOnP isBlank).filter fun w => !w.isEmpty

/-- Whether the text holds nothing but blanks. -/
def blankLine (s : Text) : Bool := s.all isBlank

end Text

end Grading
