/-
Texts in lower case. Every character is lowered by itself, except that a capital sigma becomes
the final form when it ends a word: a letter stands before it and none after it, not counting
characters such as apostrophes and accents, which are looked through.

* `meetsLetter`: whether the first character that is not looked through is a letter;
* `lower`: the text in lower case;
* `capitalize`: the text with its first character in upper case.
-/
import Grading.Text.Cased
import Grading.Text.Lowercase
import Grading.Text.Uppercase

namespace Grading

namespace Text

/-- Whether the first character that is not looked through has a case. -/
def meetsLetter (s : Text) : Bool :=
  match s.dropWhile isCaseIgnorable with
  | [] => false
  | c :: _ => isCased c

/-- The lower-case form of a capital sigma between the text `before`, nearest character first, and
the text `after`. -/
def lowerSigma (before after : Text) : Char :=
  if meetsLetter before && !meetsLetter after then 'ς' else 'σ'

/-- Lowers a text that follows the characters `before`, nearest first. -/
def lowerAfter (before : Text) : Text → Text
  | [] => []
  | c :: s =>
    (if c = 'Σ' then [lowerSigma before s] else lowerChar c) ++ lowerAfter (c :: before) s

/-- The text in lower case. -/
def lower (s : Text) : Text := lowerAfter [] s

/-- The text with its first character in upper case. -/
def capitalize : Text → Text
  | [] => []
  | c :: s => upperChar c ++ s

end Text

end Grading
