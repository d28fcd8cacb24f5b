/-
How a floating-point number is read from text:

* `nearest`: the floating-point number nearest to a decimal;
* `readFloat?`: a sign, then digits with a point and an exponent, each optional as long as some
  digit stands before the exponent, or the word `inf`, `infinity` or `nan` in any case.
-/
import Grading.Decimal.Digits

namespace Grading

namespace Decimal

/-- The floating-point number nearest to `± m * 10 ^ e`. Beyond `10 ^ 310` that is infinity and
below `10 ^ (-330)` zero, so that no power of ten larger than that is ever computed. -/
def nearest (negative : Bool) (m : Nat) (e : Int) : Float :=
  let size : Int := (digits m).length + e
  let magnitude : Float :=
    if m = 0 then 0
    else if 310 < size then 1 / 0
    else if size < -330 then 0
    else Float.ofScientific m (decide (e < 0)) e.natAbs
  if negative then -magnitude else magnitude

/-- A leading sign, as whether it is a minus, and what follows it. -/
def takeSign : Text → Bool × Text
  | '-' :: s => (true, s)
  | '+' :: s => (false, s)
  | s => (false, s)

/-- An ASCII letter in lower case; other characters stay as they are. -/
def lowerLetter (c : Char) : Char :=
  if 'A' ≤ c && c ≤ 'Z' then Char.ofNat (c.toNat + 32) else c

/-- The exponent after the digits: nothing, or an `e` with a row of digits that may have a sign. -/
def readExponent? : Text → Option Int
  | [] => some 0
  | c :: s =>
    if c = 'e' || c = 'E' then
      let (negative, ds) := takeSign s
      (readNat? ds).map fun n => if negative then -(n : Int) else n
    else
      none

/-- An unsigned decimal with a point and an exponent, both optional, as digits and a power of ten.
Some digit has to stand before or after the point. -/
def readUnsigned? (s : Text) : Option (Nat × Int) :=
  let whole := s.takeWhile isDigit
  let rest := s.dropWhile isDigit
  let (fraction, rest) :=
    match rest with
    | '.' :: t => (t.takeWhile isDigit, t.dropWhile isDigit)
    | t => ([], t)
  if whole.isEmpty && fraction.isEmpty then none
  else (readExponent? rest).map fun e => (value (whole ++ fraction), e - fraction.length)

/-- The floating-point number that a text writes. -/
def readFloat? (s : Text) : Option Float :=
  let (negative, body) := takeSign s
  let word := body.map lowerLetter
  if word = "inf".toList || word = "infinity".toList then
    some (if negative then -(1 / 0) else 1 / 0)
  else if word = "nan".toList then
    some (0 / 0)
  else
    (readUnsigned? body).map fun d => nearest negative d.1 d.2

end Decimal

end Grading
