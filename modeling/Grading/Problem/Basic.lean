/-
What is accepted as an answer to a problem:

* `Alternative`: an accepted answer with its credit, tolerance and feedback;
* `Problem`: the alternatives of a problem, in the author's order;
* `Problem.ofLine`: reads a line of a key;
* `Problem.solution?`: the answer that students are shown.
-/
import Grading.Key.Entry
import Grading.Problem.Tag

namespace Grading

/-- An accepted answer. -/
structure Alternative where
  /-- The answer as the author wrote it. -/
  value : Text
  /-- Whether the answer is a signed decimal. -/
  isNumeric : Bool
  /-- The fraction of the points that is awarded. -/
  ratio : Float
  /-- The least distance at which a number is accepted. -/
  low : Float
  /-- The greatest distance at which a number is accepted. -/
  high : Float
  /-- Whether distances were given. -/
  hasRange : Bool
  /-- What the student is told. -/
  feedback : Text

namespace Alternative

/-- The alternative with the given tags. Of several ranges or ratios the last one counts, and all
feedback is told, in order. -/
def ofTags (value : Text) (tags : List Tag) : Alternative :=
  let range := (tags.filterMap Tag.range?).getLast?
  { value := value
    isNumeric := isNumeral value
    ratio := (tags.filterMap Tag.ratio?).getLast?.getD 1
    low := (range.map Prod.fst).getD 0
    high := (range.map Prod.snd).getD 0
    hasRange := range.isSome
    feedback := Text.join "; ".toList (tags.filterMap Tag.feedback?) }

/-- Reads the tags of an alternative of the given problem. The first tag that cannot be read is the
error. -/
def ofEntry (problem : Text) (e : Entry) : Except GradingError Alternative := do
  let tags ← e.tags.mapM fun tag => (Tag.ofText tag).mapError (.malformed problem tag)
  return ofTags e.value tags

/-- Whether the alternative has full credit and no tolerance, so that it can be shown as the
solution. -/
def isFullCredit (a : Alternative) : Bool := !a.hasRange && 1 ≤ a.ratio

end Alternative

/-- The answers accepted for a problem. -/
structure Problem where
  /-- The number as it is written in the key. -/
  number : Text
  /-- The accepted answers, in the author's order. -/
  alternatives : List Alternative

namespace Problem

/-- Reads the text of a key line, in shorthand or unrolled. -/
def ofLine (number line : Text) : Except GradingError Problem := do
  let alternatives ← (entries Expander.asWritten line).mapM (Alternative.ofEntry number)
  return ⟨number, alternatives⟩

/-- Reads a line of a key. -/
def ofKeyLine (line : NumberedLine) : Except GradingError Problem := ofLine line.number line.text

/-- The answer that students are shown: the first with full credit and no tolerance. -/
def solution? (p : Problem) : Option Text :=
  (p.alternatives.find? Alternative.isFullCredit).map Alternative.value

end Problem

end Grading
