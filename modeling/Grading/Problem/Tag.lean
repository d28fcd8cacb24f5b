/-
The tags of an alternative. A tag that holds the word `range` in any case tells how far a number
may be off; otherwise a signed decimal tells the credit; anything else is feedback.

* `Tag`: a tag that has been read;
* `Tag.ofText`: reads a tag.
-/
import Grading.Number.Numeral
import Grading.Problem.Fault
import Grading.Text.Case
import Grading.Text.Blank

namespace Grading

/-- A tag of an alternative. -/
inductive Tag where
  /-- The least and the greatest distance at which a number is accepted. -/
  | range (low high : Float)
  /-- The fraction of the points that is awarded. -/
  | ratio (r : Float)
  /-- What the student is told. -/
  | feedback (text : Text)

namespace Tag

/-- Reads a bound of a range. -/
def readBound (bound : Text) : Except TagFault Float :=
  match readNumber? bound with
  | some x => .ok x
  | none => .error (.badBound bound)

/-- Reads the words that follow the word `range`: the greatest distance, or the least and the
greatest with `to` between them. -/
def ofBounds : List Text → Except TagFault Tag
  | [] => .error (.badBound [])
  | [high] => return .range 0 (← readBound high)
  | [low, between, high] =>
    if between = "to".toList then return .range (← readBound low) (← readBound high)
    else .error .badRange
  | _ => .error .badRange

/-- Reads a signed decimal: a ratio lies between minus one and one, both excluded. An accepted
answer can therefore never be mistaken for one that is written `1`. -/
def ofNumber (x : Float) : Except TagFault Tag :=
  if -1 < x && x < 1 then .ok (.ratio x) else .error .badRatio

/-- Reads a tag. -/
def ofText (s : Text) : Except TagFault Tag :=
  match Text.after? "range".toList s.lower with
  | some bounds => ofBounds bounds.words
  | none =>
    match readNumber? s with
    | some x => ofNumber x
    | none => .ok (.feedback s)

/-- The distances of a range tag. -/
def range? : Tag → Option (Float × Float)
  | range low high => some (low, high)
  | _ => none

/-- The fraction of a ratio tag. -/
def ratio? : Tag → Option Float
  | ratio r => some r
  | _ => none

/-- The text of a feedback tag. -/
def feedback? : Tag → Option Text
  | feedback s => some s
  | _ => none

end Tag

end Grading
