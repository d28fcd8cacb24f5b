/-
Lines of an answer key in shorthand and unrolled:

`4,5 & 5,4|(5,4) ; Values are switched! ; 0.5`

Alternatives stand between `&`. An alternative is a value and its tags, between `;`, and a value
may be several variants, between `|`, which share the tags. In the unrolled form every alternative
has one value.

* `Entry`: an alternative with one value, its tags not yet read;
* `entries`: the alternatives of a line, in order and without repetitions;
* `Entry.render`, `renderEntries`: the unrolled form;
* `compileLine`, `compileKey`: a line and a whole key in unrolled form.
-/
import Grading.Key.Expander
import Grading.Key.Line

namespace Grading

/-- An alternative with one value. -/
structure Entry where
  /-- The accepted answer. -/
  value : Text
  /-- The tags as they are written. -/
  tags : List Text
deriving DecidableEq, Repr

/-- The texts trimmed, without those that are blank. -/
def trimmedParts (parts : List Text) : List Text :=
  (parts.map Text.trim).filter fun s => !s.isEmpty

/-- The alternatives that one part of a line between `&` stands for. -/
def partEntries (expand : Expander) (part : Text) : List Entry :=
  match part.pieces ';' with
  | [] => []
  | value :: tags =>
    (trimmedParts (value.trim.pieces '|')).flatMap fun variant =>
      (trimmedParts (expand variant)).map fun form => ⟨form, trimmedParts tags⟩

/-- The alternatives of a line in order. One that has stood before is not repeated, so a line that
is unrolled already gains nothing. -/
def entries (expand : Expander) (line : Text) : List Entry :=
  ((line.pieces '&').flatMap (partEntries expand)).eraseDups

/-- The unrolled form of an alternative. -/
def Entry.render (e : Entry) : Text := Text.join " ; ".toList (e.value :: e.tags)

/-- The unrolled form of alternatives. -/
def renderEntries (es : List Entry) : Text := Text.join " & ".toList (es.map Entry.render)

/-- The unrolled form of a line. -/
def compileLine (expand : Expander) (line : Text) : Text := renderEntries (entries expand line)

/-- The unrolled form of a line with the number it has. -/
def compileNumbered (expand : Expander) (line : Text) : Text :=
  match splitNumber line with
  | (some number, text) => number ++ ". ".toList ++ compileLine expand text
  | (none, text) => compileLine expand text

/-- The unrolled form of a key, without its blank lines. -/
def compileKey (expand : Expander) (s : Text) : Text :=
  Text.join ['\n'] ((Text.writtenLines s).map (compileNumbered expand))

/-- What unrolling a key file in place did to it. -/
structure Recompiled where
  /-- The new text of the file. -/
  text : Text
  /-- The number of lines of the unrolled key. -/
  lines : Nat
  /-- The number of lines that are different now, blanks at their ends aside. -/
  changed : Nat
deriving DecidableEq, Repr

/-- Unrolls a key file in place. -/
def recompile (expand : Expander) (s : Text) : Recompiled :=
  let compiled := compileKey expand s
  let after := Text.lines compiled
  let changes := List.zipWith (fun old new => old.trim != new.trim) (Text.writtenLines s) after
  ⟨compiled ++ ['\n'], after.length, changes.count true⟩

end Grading
