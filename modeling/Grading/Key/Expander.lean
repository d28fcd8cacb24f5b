/-
Equivalent forms of an accepted answer:

* `Expander`: gives the forms under which a value is accepted, itself among them if it still is;
* `asWritten`: every value stands for itself only;
* `withParentheses`: a comma-separated list stands with and without parentheses around it.
-/
import Grading.Text.Blank

namespace Grading

/-- Gives the forms under which a value is accepted. -/
abbrev Expander := Text → List Text

namespace Expander

/-- Every value stands for itself only. -/
def asWritten : Expander := fun value => [value]

/-- Whether a character is a parenthesis. -/
def isParenthesis (c : Char) : Bool := c = '(' || c = ')'

/-- What stands between a parenthesis in front and one at the end. -/
def inner? : Text → Option Text
  | '(' :: s => [')'].isSuffixOf? s
  | _ => none

/-- The other form of a list: without its parentheses, or with parentheses if it has none. A list
that has others stands for itself only. -/
def otherForm? (value : Text) : Option Text :=
  if value.contains ',' then
    match inner? value with
    | some s => if s.any isParenthesis then none else some s.trim
    | none => if value.any isParenthesis then none else some ('(' :: value ++ [')'])
  else
    none

/-- A comma-separated list stands with and without parentheses around it. -/
def withParentheses : Expander := fun value => value :: (otherForm? value).toList

end Expander

end Grading
