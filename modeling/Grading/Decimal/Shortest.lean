/-
The shortest decimal that identifies a floating-point number. A positive finite number is
`mantissa * 2 ^ exponent`; the reals that round to it form an interval, which holds its ends
exactly when the mantissa is even. Of the decimals in that interval the one with the fewest digits
is taken, of several the nearest to the number, and of two equally near ones the one `Tie` names.

* `Binary`: a positive finite number as mantissa and exponent;
* `Decimal`: a coefficient with a power of ten;
* `Binary.identifies`: whether a decimal lies in the interval;
* `Binary.shortest`: the decimal that is written.
-/
import Grading.Decimal.Digits
import Grading.Decimal.Rounding

namespace Grading

/-- The number `coefficient * 10 ^ exponent`. -/
structure Decimal where
  /-- The digits, as one number. -/
  coefficient : Nat
  /-- The power of ten. -/
  exponent : Int
deriving DecidableEq, Repr

namespace Decimal

/-- A positive finite floating-point number, `mantissa * 2 ^ exponent`, with the mantissa as long
as the format allows. -/
structure Binary where
  /-- The mantissa, below `2 ^ 53`. -/
  mantissa : Nat
  /-- The power of two, at least `-1074`. -/
  exponent : Int
deriving DecidableEq, Repr

namespace Binary

/-- The least mantissa of full length, `2 ^ 52`. -/
def hiddenBit : Nat := 0x10_0000_0000_0000

/-- Whether the next number below is only half as far away as the next one above, which is so at
the powers of two except the least. -/
def narrowBelow (x : Binary) : Bool := x.mantissa == hiddenBit && -1074 < x.exponent

/-- Compares `a * 10 ^ i` with `m * 2 ^ j`, exactly. -/
def compareScaled (a : Nat) (i : Int) (m : Nat) (j : Int) : Ordering :=
  compare (a * Nat.pow 10 i.toNat * Nat.pow 2 (-j).toNat)
    (m * Nat.pow 2 j.toNat * Nat.pow 10 (-i).toNat)

/-- Whether the decimal lies among the reals that round to the number. -/
def identifies (x : Binary) (d : Decimal) : Bool :=
  let below := if x.narrowBelow then 4 * x.mantissa - 1 else 4 * x.mantissa - 2
  let above := 4 * x.mantissa + 2
  let closed := x.mantissa % 2 == 0
  let low := compareScaled d.coefficient d.exponent below (x.exponent - 2)
  let high := compareScaled d.coefficient d.exponent above (x.exponent - 2)
  (low == .gt || closed && low == .eq) && (high == .lt || closed && high == .eq)

/-- The number in units of `10 ^ k`, as an exact quotient. -/
def inUnits (x : Binary) (k : Int) : Nat × Nat :=
  (x.mantissa * Nat.pow 2 x.exponent.toNat * Nat.pow 10 (-k).toNat,
    Nat.pow 2 (-x.exponent).toNat * Nat.pow 10 k.toNat)

/-- The least `k` with the number below `10 ^ k`: no number is below `10 ^ (-400)`, so its digits
in units of `10 ^ (-400)` tell how large it is. -/
def scale (x : Binary) : Int :=
  let (num, den) := x.inUnits (-400)
  ((digits (num / den)).length : Int) - 400

/-- The nearest decimal in units of `10 ^ k` that identifies the number, if one does. It is the
rounded quotient or, when that one lies outside the interval, its neighbour on the other side. -/
def onGrid? (tie : Tie) (x : Binary) (k : Int) : Option Decimal :=
  let (num, den) := x.inUnits k
  let near := roundDiv tie num den
  let far := if near = num / den then near + 1 else num / den
  if x.identifies ⟨near, k⟩ then some ⟨near, k⟩
  else if x.identifies ⟨far, k⟩ then some ⟨far, k⟩
  else none

/-- The exact value of the number, as a decimal. -/
def exact (x : Binary) : Decimal :=
  ⟨x.mantissa * Nat.pow 2 x.exponent.toNat * Nat.pow 5 (-x.exponent).toNat, min x.exponent 0⟩

/-- The shortest decimal that identifies the number. Seventeen digits always suffice; beyond them
the exact value would be taken. -/
def shortest (tie : Tie) (x : Binary) : Decimal :=
  let top := x.scale
  ((List.range 17).findSome? fun (n : Nat) => x.onGrid? tie (top - 1 - n)).getD x.exact

end Binary

/-- The decimal without the zeros at the end of its digits. -/
def dropZeros (d : Decimal) : Decimal :=
  if h : d.coefficient ≠ 0 ∧ d.coefficient % 10 = 0 then
    dropZeros ⟨d.coefficient / 10, d.exponent + 1⟩
  else
    d
termination_by d.coefficient
decreasing_by exact Nat.div_lt_self (Nat.pos_of_ne_zero h.1) (by decide)

end Decimal

end Grading
