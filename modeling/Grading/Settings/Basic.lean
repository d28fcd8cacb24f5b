/-
The settings of a run.

* `Settings`: the rules and all else that can be set, with what holds unless it is set;
* `Settings.invalid?`: why no run can use the settings;
* `OverrideError`, `Settings.override`: settings that are given from outside, and what can be wrong
  with them.
-/
import Grading.Decimal.Reader
import Grading.Path
import Grading.Rules
import Grading.Text.Blank

namespace Grading

/-- The settings of a run. -/
structure Settings where
  /-- The rules of grading. -/
  rules : Rules := {}
  /-- Whether every student gets a grade file. -/
  createResultsFile : Bool := true
  /-- Whether a list is accepted with and without parentheses when a key is unrolled. -/
  expandEquivalents : Bool := false
  /-- How many submissions may be graded at a time. -/
  parallelism : Nat := 4
  /-- Where grade files and reports go. -/
  outputDir : Path := "./answerkey-results".toList

namespace Settings

/-- Why no run can use the settings, if none can. -/
def invalid? (s : Settings) : Option Text :=
  if s.parallelism = 0 then some "parallelism must be at least 1".toList
  else if s.rules.pointValue.isFinite && 0 < s.rules.pointValue then none
  else some "default_point_value must be a positive number".toList

end Settings

/-- Settings that are given from outside. -/
structure Overrides where
  /-- The points for a correct answer. -/
  pointValue : Option Text := none
  /-- Whether blanks inside an answer count. -/
  preserveSpacing : Option Text := none

/-- What is wrong with a setting that is given from outside. -/
inductive OverrideError where
  /-- The points are no number. -/
  | pointValue (given : Text)
  /-- Whether blanks count is neither `true` nor `false`. -/
  | preserveSpacing (given : Text)
deriving DecidableEq, Repr

/-- How the error is told, with its cause. -/
def OverrideError.message : OverrideError → Text
  | .pointValue given =>
    "ANSWERKEY_POINT_VALUE is not a number: '".toList ++ given ++ "': ".toList ++
      (if given.trim.isEmpty then "cannot parse float from empty string".toList
        else "invalid float literal".toList)
  | .preserveSpacing given =>
    "ANSWERKEY_PRESERVE_SPACING is not a bool: '".toList ++ given
      ++ "': provided string was not \x60true\x60 or \x60false\x60".toList

/-- The truth value that a word writes. -/
def readBool? (s : Text) : Option Bool :=
  if s = "true".toList then some true else if s = "false".toList then some false else none

/-- A setting that is given from outside in place of `default`. -/
def overridden {α : Type} (given : Option Text) (read : Text → Option α) (default : α)
    (wrong : Text → OverrideError) : Except OverrideError α :=
  match given with
  | none => .ok default
  | some s =>
    match read s.trim with
    | some a => .ok a
    | none => .error (wrong s)

/-- The settings with those given from outside. -/
def Settings.override (o : Overrides) (s : Settings) : Except OverrideError Settings := do
  let pointValue ←
    overridden o.pointValue Decimal.readFloat? s.rules.pointValue .pointValue
  let preserveSpacing ←
    overridden o.preserveSpacing readBool? s.rules.preserveSpacing .preserveSpacing
  return { s with rules := { s.rules with pointValue, preserveSpacing } }

end Grading
