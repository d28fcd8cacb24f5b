/-
When an answer matches an accepted one, both in normal form. Two numbers match by their distance
and by nothing else; other texts match if they are equal or, where the order of list items does not
matter, as lists.

* `MatchKind`: in which of the three ways they match;
* `Alternative.admits`: whether a number at a distance is accepted;
* `listsMatch`: whether two comma-separated texts match as lists;
* `Alternative.match?`: whether and how the answer matches.
-/
import Grading.Problem.Basic
import Grading.Rules

namespace Grading

/-- How an answer matches. -/
inductive MatchKind where
  /-- Both are numbers, at an accepted distance. -/
  | numeric
  /-- Both are the same text. -/
  | exact
  /-- Both are lists of the same items. -/
  | unorderedList
deriving DecidableEq, Repr

/-- What a distance may be off by because numbers are rounded. -/
def slack : Float := 1e-9

/-- Whether a number at the given distance from the value is accepted. -/
def Alternative.admits (a : Alternative) (distance : Float) : Bool :=
  a.low - slack ≤ distance && distance ≤ a.high + slack

/-- The items of a comma-separated text, without their blanks. -/
def listItems (s : Text) : List Text := s.squeeze.pieces ','

/-- Whether an answer and an accepted text match as lists: they have equally many items, and the
same ones or, if that is enough, ones that occur in the accepted text. -/
def listsMatch (mode : ListMatch) (answer accepted : Text) : Bool :=
  let given := listItems answer
  let wanted := listItems accepted
  given.length == wanted.length &&
    match mode with
    | .exact => given.mergeSort Text.le == wanted.mergeSort Text.le
    | .contains => given.all fun item => Text.holds item accepted

/-- Whether and how an answer matches the accepted text of an alternative. -/
def Alternative.match? (rules : Rules) (a : Alternative) (accepted answer : Text) :
    Option MatchKind :=
  match readNumber? accepted, readNumber? answer with
  | some expected, some given =>
    if a.admits (given - expected).abs then some .numeric else none
  | _, _ =>
    if answer = accepted then some .exact
    else if !rules.listOrderMatters && answer.contains ','
        && listsMatch rules.listMatch answer accepted then some .unorderedList
    else none

end Grading
