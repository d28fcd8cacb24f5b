/-
How JSON numbers are read.

* `splitNumeric?`: the parts of a number as it is spelled;
* `Spelled.toFloat?`: the floating-point number. Of its digits as many are kept as fit 64 bits, and
  then one multiplication or division by a power of ten puts the point where it belongs; a number
  that is too large is refused;
* `Spelled.toWord?`: the number as an unsigned number of 64 bits, if it is spelled as one.
-/
import Grading.Decimal.Reader

namespace Grading

namespace Json

open Decimal (isDigit isDigits digitValue wordCount)

/-- The parts of a number as it is spelled. -/
structure Spelled where
  /-- Whether a minus stands in front. -/
  negative : Bool
  /-- The digits in front of the point. -/
  whole : Text
  /-- The digits after the point, if there is one. -/
  fraction : Option Text
  /-- The exponent, if there is one. -/
  exponent : Option Int
deriving DecidableEq, Repr

/-- Splits a number into its parts. No zero stands in front of other digits, and a point and an
exponent have digits. -/
def splitNumeric? (s : Text) : Option Spelled :=
  let (negative, body) := match s with
    | '-' :: t => (true, t)
    | t => (false, t)
  let whole := body.takeWhile isDigit
  let (fraction, rest) := match body.dropWhile isDigit with
    | '.' :: t => (some (t.takeWhile isDigit), t.dropWhile isDigit)
    | t => (none, t)
  if whole.isEmpty || (whole.head? = some '0' && whole.length ≠ 1) || fraction = some [] then none
  else
    match rest with
    | [] => some ⟨negative, whole, fraction, none⟩
    | t => (Decimal.readExponent? t).map fun e => ⟨negative, whole, fraction, some e⟩

/-- Appends digits to a number as long as the result fits 64 bits. The result holds that number
and how many digits were left out. -/
def keepDigits (n : Nat) : Text → Nat × Nat
  | [] => (n, 0)
  | c :: s =>
    let next := 10 * n + digitValue c
    if next < wordCount then keepDigits next s else (n, s.length + 1)

/-- The greatest power of ten that a floating-point number holds. -/
def greatestPower : Nat := 308

/-- A power of ten up to the greatest. -/
def power (k : Nat) : Float := Float.ofScientific 1 false k

/-- The number `x * 10 ^ e`, by one multiplication or division where the power allows it. -/
def scaled? (x : Float) (e : Int) : Option Float :=
  if _near : e.natAbs ≤ greatestPower then
    if 0 ≤ e then
      let y := x * power e.natAbs
      if y.isFinite then some y else none
    else
      some (x / power e.natAbs)
  else if x == 0 then some x
  else if _up : 0 ≤ e then none
  else scaled? (x / power greatestPower) (e + greatestPower)
termination_by e.natAbs
decreasing_by simp only [greatestPower] at *; omega

/-- The floating-point number that is spelled. -/
def Spelled.toFloat? (n : Spelled) : Option Float :=
  let (front, left) := keepDigits 0 n.whole
  let fraction := n.fraction.getD []
  let (significand, dropped) := keepDigits front fraction
  let shift : Int := (left : Int) - (fraction.length - dropped : Nat) + n.exponent.getD 0
  (scaled? (Float.ofNat significand) shift).map fun x => if n.negative then -x else x

/-- The number as an unsigned number of 64 bits, if it is spelled with nothing but digits. -/
def Spelled.toWord? (n : Spelled) : Option UInt64 :=
  if !n.negative && n.fraction.isNone && n.exponent.isNone && Decimal.value n.whole < wordCount then
    some (UInt64.ofNat (Decimal.value n.whole))
  else
    none

end Json

end Grading
