/-
The numbers that an answer may write: an optional minus, digits, and optionally a point with more
digits. Exponents, a plus and words such as `inf` are no numbers here.

* `Numeral`: such a number, as its digits;
* `Numeral.ofText?`: reads a whole text as one;
* `isNumeral`, `readNumber?`: whether a text is one, and which number it writes.
-/
import Grading.Decimal.Reader

namespace Grading

open Decimal (isDigits)

/-- A signed decimal as it is written. -/
structure Numeral where
  /-- Whether a minus stands in front. -/
  negative : Bool
  /-- The digits in front of the point. -/
  whole : Text
  /-- The digits after the point; none if there is no point. -/
  fraction : Text
deriving DecidableEq, Repr

namespace Numeral

/-- Reads a text without sign. If there is a point, digits stand on both sides of it. -/
def ofUnsigned? (negative : Bool) (s : Text) : Option Numeral :=
  match s.cut? '.' with
  | none => if isDigits s then some ⟨negative, s, []⟩ else none
  | some (whole, fraction) =>
    if isDigits whole && isDigits fraction then some ⟨negative, whole, fraction⟩ else none

/-- Reads a whole text as a signed decimal. -/
def ofText? : Text → Option Numeral
  | '-' :: s => ofUnsigned? true s
  | s => ofUnsigned? false s

/-- The floating-point number nearest to the numeral. -/
def toFloat (n : Numeral) : Float :=
  Decimal.nearest n.negative (Decimal.value (n.whole ++ n.fraction)) (-(n.fraction.length : Int))

end Numeral

/-- Whether the text is a signed decimal. -/
def isNumeral (s : Text) : Bool := (Numeral.ofText? s).isSome

/-- The number that the text writes, if it is a signed decimal. -/
def readNumber? (s : Text) : Option Float := (Numeral.ofText? s).map Numeral.toFloat

end Grading
