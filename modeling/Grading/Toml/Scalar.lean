/-
TOML values that are written as one word: truth values, numbers, dates and times.

* `integer?`, `float?`: numbers, with underscores between digits;
* `isDate`, `isTime`, `isMoment`: dates and times;
* `Toml.ofWord?`: the value that a word stands for.
-/
import Grading.Json.Quoted
import Grading.Record.Date
import Grading.Decimal.Reader
import Grading.Toml.Basic

namespace Grading

namespace Toml

open Decimal (isDigit)

/-! ### Numbers -/

/-- The digits of a row that may have single underscores between them. -/
def digitRow? (isOk : Char → Bool) (s : Text) : Option Text :=
  let runs := s.pieces '_'
  if runs.all fun run => !run.isEmpty && run.all isOk then some runs.flatten else none

/-- The digits of a whole number, without a zero in front of others. -/
def wholeDigits? (s : Text) : Option Text :=
  (digitRow? isDigit s).filter fun ds => ds.length = 1 || ds.head? ≠ some '0'

/-- The greatest whole number. -/
def greatest : Int := 0x7FFF_FFFF_FFFF_FFFF

/-- The least whole number. -/
def least : Int := -0x8000_0000_0000_0000

/-- A whole number within the limits. -/
def limited? (n : Int) : Option Int := if least ≤ n ∧ n ≤ greatest then some n else none

/-- The number that digits to a base stand for. -/
def based? (base : Nat) (s : Text) : Option Int :=
  let isOk := fun c => ((Json.hexValue? c).filter (· < base)).isSome
  match digitRow? isOk s with
  | some ds =>
    limited? ((ds.filterMap Json.hexValue?).foldl (fun n d => base * n + d) 0 : Nat)
  | none => none

/-- A whole number: decimal with an optional sign, or to the base 16, 8 or 2. -/
def integer? : Text → Option Int
  | '0' :: 'x' :: s => based? 16 s
  | '0' :: 'o' :: s => based? 8 s
  | '0' :: 'b' :: s => based? 2 s
  | s =>
    let (negative, body) := Decimal.takeSign s
    (wholeDigits? body).bind fun ds =>
      limited? (if negative then -(Decimal.value ds : Int) else Decimal.value ds)

/-- The digits of an exponent, with the sign in front. -/
def exponentText? (s : Text) : Option Text :=
  match s with
  | '-' :: t => (digitRow? isDigit t).map ('-' :: ·)
  | '+' :: t => digitRow? isDigit t
  | t => digitRow? isDigit t

/-- The digits around the point, without underscores; a point has digits on both sides. -/
def mantissaText? (s : Text) : Option Text :=
  match s.cut? '.' with
  | none => wholeDigits? s
  | some (whole, fraction) => do
    return (← wholeDigits? whole) ++ '.' :: (← digitRow? isDigit fraction)

/-- The text of a floating-point number without underscores. There is a point or an exponent. -/
def floatText? (s : Text) : Option Text :=
  let lowered : Text := s.map Char.toLower
  match lowered.cut? 'e' with
  | some (mantissa, exponent) => do
    return (← mantissaText? mantissa) ++ 'e' :: (← exponentText? exponent)
  | none => if s.contains '.' then mantissaText? s else none

/-- A floating-point number. One that is too large is refused unless it is negative. -/
def float? (s : Text) : Option Float :=
  let (negative, body) := Decimal.takeSign s
  let signed := fun (x : Float) => if negative then -x else x
  if body = "inf".toList then some (signed (1 / 0))
  else if body = "nan".toList then some (signed (0 / 0))
  else
    match (floatText? body).bind Decimal.readFloat? with
    | some x => if signed x == 1 / 0 then none else some (signed x)
    | none => none

/-! ### Dates and times -/

/-- Whether a text is a row of so many digits. -/
def isRow (width : Nat) (s : Text) : Bool := s.length = width && s.all isDigit

/-- Whether a text is a date. -/
def isDate (s : Text) : Bool :=
  match s.pieces '-' with
  | [year, month, day] =>
    isRow 4 year && isRow 2 month && isRow 2 day &&
      Date.isValid ⟨Decimal.value year, Decimal.value month, Decimal.value day⟩
  | _ => false

/-- Whether a text is an hour and a minute. -/
def isHourMinute (s : Text) : Bool :=
  match s.pieces ':' with
  | [hour, minute] =>
    isRow 2 hour && isRow 2 minute && Decimal.value hour ≤ 23 && Decimal.value minute ≤ 59
  | _ => false

/-- Whether a text is a second, possibly with a fraction. -/
def isSecond (s : Text) : Bool :=
  match s.cut? '.' with
  | none => isRow 2 s && Decimal.value s ≤ 60
  | some (second, fraction) =>
    isRow 2 second && Decimal.value second ≤ 60 && Decimal.isDigits fraction

/-- Whether a text is a time of day. -/
def isTime (s : Text) : Bool :=
  isHourMinute (s.take 5) && (s.drop 5).take 1 = [':'] && isSecond (s.drop 6)

/-- Whether a character starts an offset. -/
def isSign (c : Char) : Bool := c = '+' || c = '-'

/-- Whether a text is a time of day, possibly with an offset. -/
def isOffsetTime (s : Text) : Bool :=
  let time := s.takeWhile fun c => !isSign c && c ≠ 'Z' && c ≠ 'z'
  let offset := s.drop time.length
  isTime time &&
    match offset with
    | [] => true
    | c :: rest => if isSign c then isHourMinute rest else rest.isEmpty

/-- Whether a text is a date, a time, or both. -/
def isMoment (s : Text) : Bool :=
  isTime s || isDate (s.take 10) &&
    match s.drop 10 with
    | [] => true
    | c :: rest => (c = 'T' || c = 't') && isOffsetTime rest

/-! ### Words -/

/-- The value that a word stands for. -/
def ofWord? (w : Text) : Option Toml :=
  if w = "true".toList then some (bool true)
  else if w = "false".toList then some (bool false)
  else if isMoment w then some moment
  else
    match float? w with
    | some x => some (float x)
    | none => (integer? w).map integer

end Toml

end Grading
