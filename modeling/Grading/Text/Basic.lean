/-
Texts, and how they are cut and put together:

* `Text`: a text is the list of its characters, so that every rule about texts is a recursion on
  a list;
* `Text.cut?`: the parts before and after the first occurrence of a character;
* `Text.after?`: what follows the first occurrence of a word, from which `Text.holds` says
  whether a text holds the word at all;
* `Text.pieces`: all the parts between the occurrences of a character;
* `Text.join`, `Text.ofLines`: parts put together around a separator, and lines with their ends.
-/

namespace Grading

/-- A text is the list of its characters. -/
abbrev Text := List Char

namespace Text

/-- The parts before and after the first `c`, or `none` if there is no `c`. -/
def cut? (c : Char) : Text → Option (Text × Text)
  | [] => none
  | a :: s => if a = c then some ([], s) else (cut? c s).map fun p => (a :: p.1, p.2)

/-- What follows the first occurrence of `word`, or `none` if it does not occur. -/
def after? (word : Text) : Text → Option Text
  | [] => word.isPrefixOf? []
  | a :: s =>
    match word.isPrefixOf? (a :: s) with
    | some rest => some rest
    | none => after? word s

/-- Whether `word` occurs in the text, as characters in a row. -/
def holds (word s : Text) : Bool := (after? word s).isSome

/-- The parts between the occurrences of `c`. There is one more part than there are occurrences,
so the empty text has one empty part. -/
def pieces (c : Char) (s : Text) : List Text := s.splitOn c

/-- The parts in order, with `sep` between each and the next. -/
def join (sep : Text) (parts : List Text) : Text := sep.intercalate parts

/-- The order in which texts are sorted: by code points, a text before its longer continuations. -/
def le : Text → Text → Bool
  | [], _ => true
  | _ :: _, [] => false
  | a :: s, b :: t => a.toNat < b.toNat || a = b && le s t

/-- The text of some lines, each with a line end. -/
def ofLines (lines : List String) : Text := lines.flatMap fun line => line.toList ++ ['\n']

end Text

end Grading
