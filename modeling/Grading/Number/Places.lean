/-
Numbers with at most two places, as they are shown:

* `roundToWhole`: the nearest whole number, a half going away from zero;
* `twoPlaces`: a quotient rounded to two places, without zeros at its end;
* `points`: an amount of points, with at least one place;
* `percent`: a share in hundredths, with one place.
-/
import Grading.Decimal.Notation
import Grading.Decimal.Reader

namespace Grading

open Decimal (Binary roundDiv nearest plain fixed)

/-- The whole number nearest to a floating-point number, a half going away from zero. Numbers that
are not finite stay as they are, and so does the sign of zero. -/
def roundToWhole (x : Float) : Float :=
  match x.toModel.unpack with
  | .finite sign m e _ =>
    let q := Binary.inUnits ⟨m, e⟩ 0
    nearest (sign == .negative) (roundDiv .awayFromZero q.1 q.2) 0
  | _ => x

/-- The number in hundredths rounded to a whole number of them, written without zeros at the end.
Zero is written without a sign. -/
def twoPlaces (x : Float) : Text :=
  let rounded := roundToWhole (x * 100) / 100
  plain.render (if rounded == 0 then 0 else rounded)

/-- Drops zeros from the end of a number, least place first, up to the one after the point. -/
def dropZerosUp : Text → Text
  | '0' :: '.' :: s => '0' :: '.' :: s
  | '0' :: s => dropZerosUp s
  | s => s

/-- An amount of points: two places, without a zero at the end unless it follows the point. An
amount that rounds to zero has no sign. -/
def points (x : Float) : Text :=
  let s := (dropZerosUp (fixed 2 x).reverse).reverse
  if s = "-0.0".toList then "0.0".toList else s

/-- A share in hundredths, with one place. -/
def percent (x : Float) : Text := fixed 1 (x * 100) ++ ['%']

end Grading
