/-
The rules that a grading run follows:

* `ListMatch`: how comma-separated answers are compared when their order does not matter;
* `Rules`: all the rules together, with those that hold unless others are given.
-/

namespace Grading

/-- How comma-separated answers are compared when their order does not matter. -/
inductive ListMatch where
  /-- Both sides hold the same items, in any order. -/
  | exact
  /-- Every item of the answer occurs somewhere in the accepted text. -/
  | contains
deriving DecidableEq, Repr

/-- The rules of a grading run. -/
structure Rules where
  /-- Whether blanks inside an answer count. -/
  preserveSpacing : Bool := false
  /-- Whether the items of a comma-separated answer have to come in the accepted order. -/
  listOrderMatters : Bool := true
  /-- Whether an answer that is a fraction is replaced by its quotient. -/
  convertFractions : Bool := true
  /-- The points for a fully correct answer. -/
  pointValue : Float := 1
  /-- How items are compared when their order does not matter. -/
  listMatch : ListMatch := .exact

end Grading
