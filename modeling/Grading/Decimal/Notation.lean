/-
How a floating-point number is written: which digits, chosen in `Grading.Decimal.Shortest`, and
where the point and the exponent stand. Two notations are in use:

* `plain`: always positional, without a point on whole numbers, as numbers are shown to people;
* `portable`: with a point or an exponent on every number, as they are kept in report files.

`fixed` writes a given number of places instead.
-/
import Grading.Decimal.Shortest

namespace Grading

namespace Decimal

/-- The decisions of a notation. -/
structure Notation where
  /-- Which of two equally near shortest decimals is written. -/
  tie : Tie
  /-- Whether a number is written without an exponent, by the power of ten of its first digit. -/
  positional : Int → Bool
  /-- Whether a whole number ends in a point and a zero. -/
  pointZero : Bool

/-- Always positional, whole numbers without a point, a tie away from zero. -/
def plain : Notation where
  tie := .awayFromZero
  positional := fun _ => true
  pointZero := false

/-- Positional from `10 ^ (-5)` up to `10 ^ 16`, whole numbers with a point and a zero, a tie to
the even digit. -/
def portable : Notation where
  tie := .toEven
  positional := fun e => -5 ≤ e && e < 16
  pointZero := true

/-- The digits with the point `k` digits after the first place, which may lie before or beyond
them. -/
def pointAt (pointZero : Bool) (ds : Text) (k : Int) : Text :=
  if k ≤ 0 then
    ['0', '.'] ++ List.replicate (-k).toNat '0' ++ ds
  else if ds.length ≤ k.toNat then
    ds ++ List.replicate (k.toNat - ds.length) '0' ++ (if pointZero then ['.', '0'] else [])
  else
    ds.take k.toNat ++ '.' :: ds.drop k.toNat

/-- The digits with the point after the first, and the exponent with its sign. -/
def withExponent (ds : Text) (e : Int) : Text :=
  let mantissa :=
    match ds with
    | [] => []
    | [d] => [d]
    | d :: rest => d :: '.' :: rest
  mantissa ++ 'e' :: (if e < 0 then '-' else '+') :: digits e.natAbs

/-- A decimal without zeros at its end, written in a notation. -/
def Notation.layout (style : Notation) (d : Decimal) : Text :=
  let ds := digits d.coefficient
  let k : Int := ds.length + d.exponent
  if style.positional (k - 1) then pointAt style.pointZero ds k else withExponent ds (k - 1)

/-- The sign in front of a negative number. -/
def signText : Float.Model.UnpackedFloat.Sign → Text
  | .negative => ['-']
  | .positive => []

/-- A floating-point number written in a notation. -/
def Notation.render (style : Notation) (x : Float) : Text :=
  match x.toModel.unpack with
  | .notANumber => "NaN".toList
  | .infinity sign => signText sign ++ "inf".toList
  | .zero sign => signText sign ++ (if style.pointZero then "0.0".toList else ['0'])
  | .finite sign m e _ => signText sign ++ style.layout (Binary.shortest style.tie ⟨m, e⟩).dropZeros

/-- A number of units of the last place, written with `places` digits after the point. -/
def fixedUnits (places units : Nat) : Text :=
  let ds := padded (places + 1) units
  ds.take (ds.length - places) ++ '.' :: ds.drop (ds.length - places)

/-- A floating-point number with `places` digits after the point: its exact value rounded, and of
two equally near values the one that ends in an even digit. -/
def fixed (places : Nat) (x : Float) : Text :=
  match x.toModel.unpack with
  | .notANumber => "NaN".toList
  | .infinity sign => signText sign ++ "inf".toList
  | .zero sign => signText sign ++ fixedUnits places 0
  | .finite sign m e _ =>
    let q := Binary.inUnits ⟨m, e⟩ (-places)
    signText sign ++ fixedUnits places (roundDiv .toEven q.1 q.2)

end Decimal

end Grading
