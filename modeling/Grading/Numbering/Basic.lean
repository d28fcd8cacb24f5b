/-
Problem numbers: a number with an optional part, such as `16` or `16a`.

* `ProblemNumber`: such a number;
* `ProblemNumber.ofText?`, `ProblemNumber.render`: how it is read and written;
* `ProblemNumber.ofLine?`: the number of a numbered line;
* `ProblemNumber.le`: the order, by number and then by part.
-/
import Grading.Key.Line

namespace Grading

/-- The number of a problem. -/
structure ProblemNumber where
  /-- The number itself. -/
  number : Nat
  /-- The letter of a part of the problem. -/
  part : Option Char
deriving DecidableEq, Repr

namespace ProblemNumber

/-- The greatest number that a problem can have. -/
def greatest : Nat := 0xFFFF_FFFF

/-- Reads a number up to the greatest one. -/
def readLimited? (s : Text) : Option Nat := (Decimal.readNat? s).filter (· ≤ greatest)

/-- Reads digits and then at most one letter, which counts as lower case. Blanks around them are
left aside. -/
def ofText? (s : Text) : Option ProblemNumber := do
  let body := s.trim
  let number ← readLimited? (body.takeWhile Decimal.isDigit)
  match body.dropWhile Decimal.isDigit with
  | [] => return ⟨number, none⟩
  | [c] => if c.isAlpha then return ⟨number, some c.toLower⟩ else none
  | _ => none

/-- The number as it is written. -/
def render (p : ProblemNumber) : Text := Decimal.digits p.number ++ p.part.toList

/-- The number that a line has in front, if it is a problem number. -/
def ofLine? (line : Text) : Option ProblemNumber := (splitNumber line).1.bind ofText?

/-- A problem without parts comes before its parts. -/
def partLe : Option Char → Option Char → Bool
  | none, _ => true
  | some _, none => false
  | some c, some d => c ≤ d

/-- The order by number and then by part. -/
def le (p q : ProblemNumber) : Bool :=
  p.number < q.number || p.number == q.number && partLe p.part q.part

end ProblemNumber

end Grading
