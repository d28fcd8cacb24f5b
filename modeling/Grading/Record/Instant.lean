/-
Points in time.

* `Instant`: seconds since the start of 1970, universal time, with a fraction;
* `Instant.render`, `Instant.showTime`, `Instant.fileStamp`: how it is written in report files, on
  pages and in file names;
* `Instant.ofText?`: how it is read: a date, a time and an offset. Blanks may stand around the
  parts, and digits may be missing in front of a number.
-/
import Grading.Decimal.Digits
import Grading.Record.Date
import Grading.Text.Blank

namespace Grading

open Decimal (isDigit padded)

/-- A point in time. -/
structure Instant where
  /-- The seconds since the start of 1970. -/
  seconds : Int
  /-- The nanoseconds since then; a billion of them or more lie in a leap second. -/
  nanos : Nat
deriving DecidableEq, Repr

namespace Instant

/-! ### Writing -/

/-- The seconds of a day. -/
def dayLength : Int := 86400

/-- The date of a point in time. -/
def date (t : Instant) : Date := Date.ofDays (t.seconds / dayLength)

/-- The hour, the minute and the second of a point in time. -/
def clock (t : Instant) : Nat × Nat × Nat :=
  let s := (t.seconds % dayLength).toNat
  (s / 3600, s / 60 % 60, s % 60 + t.nanos / 1000000000)

/-- A year as four digits; one with fewer or more than four has a sign. -/
def yearText (year : Int) : Text :=
  if 0 ≤ year && year ≤ 9999 then padded 4 year.toNat
  else (if year < 0 then '-' else '+') :: padded 4 year.natAbs

/-- A date with hyphens. -/
def dateText (d : Date) : Text :=
  yearText d.year ++ '-' :: padded 2 d.month ++ '-' :: padded 2 d.day

/-- A time of day with the given separator. -/
def clockText (sep : Text) (t : Instant) : Text :=
  let (hour, minute, second) := t.clock
  Text.join sep [padded 2 hour, padded 2 minute, padded 2 second]

/-- The fraction of a second in thousandths, millionths or billionths, whichever is exact. -/
def fractionText (nanos : Nat) : Text :=
  let n := nanos % 1000000000
  if n = 0 then []
  else if n % 1000000 = 0 then '.' :: padded 3 (n / 1000000)
  else if n % 1000 = 0 then '.' :: padded 6 (n / 1000)
  else '.' :: padded 9 n

/-- How a point in time is written in report files. -/
def render (t : Instant) : Text :=
  dateText t.date ++ 'T' :: t.clockText [':'] ++ fractionText t.nanos ++ ['Z']

/-- How a point in time is shown on a page. -/
def showTime (t : Instant) : Text :=
  dateText t.date ++ ' ' :: t.clockText [':'] ++ " UTC".toList

/-- How a point in time is written in file names. -/
def fileStamp (t : Instant) : Text := dateText t.date ++ 'T' :: t.clockText []

/-! ### Reading -/

/-- Reads at least one and at most `width` digits, after blanks. -/
def takeNumber? (width : Nat) (s : Text) : Option (Nat × Text) :=
  let t := s.trimStart
  let ds := (t.take width).takeWhile isDigit
  if ds.isEmpty then none else some (Decimal.value ds, t.drop ds.length)

/-- Reads a mark, after blanks. -/
def takeMark? (c : Char) (s : Text) : Option Text :=
  match s.trimStart with
  | [] => none
  | d :: t => if d = c then some t else none

/-- Reads a year: up to four digits, or a sign and any digits. -/
def takeYear? (s : Text) : Option (Int × Text) :=
  let signed := fun (t : Text) =>
    let ds := t.takeWhile isDigit
    if ds.isEmpty then none else some ((Decimal.value ds : Int), t.drop ds.length)
  match s.trimStart with
  | '-' :: t => (signed t).map fun p => (-p.1, p.2)
  | '+' :: t => signed t
  | t => (takeNumber? 4 t).map fun p => (p.1, p.2)

/-- Reads a date. -/
def takeDate? (s : Text) : Option (Date × Text) := do
  let (year, s) ← takeYear? s
  let (month, s) ← takeNumber? 2 (← takeMark? '-' s)
  let (day, s) ← takeNumber? 2 (← takeMark? '-' s)
  return (⟨year, month, day⟩, s)

/-- Reads the fraction of a second in nanoseconds, if there is one. Digits beyond the ninth are
passed over. -/
def takeFraction? : Text → Option (Nat × Text)
  | '.' :: s =>
    let ds := s.takeWhile isDigit
    if ds.isEmpty then none
    else
      let kept := ds.take 9
      some (Decimal.value (kept ++ List.replicate (9 - kept.length) '0'), s.drop ds.length)
  | s => some (0, s)

/-- Reads a time of day as seconds and nanoseconds. Second 60 lies in the second before it. -/
def takeClock? (s : Text) : Option (Nat × Nat × Text) := do
  let (hour, s) ← takeNumber? 2 s
  let (minute, s) ← takeNumber? 2 (← takeMark? ':' s)
  let (second, s) ← takeNumber? 2 (← takeMark? ':' s)
  let (nanos, s) ← takeFraction? s
  if 23 < hour || 59 < minute || 60 < second then none
  else
    let leap := second / 60
    return (hour * 3600 + minute * 60 + (second - leap), nanos + leap * 1000000000, s)

/-- Reads a sign as whether it is negative. -/
def takeSign? : Text → Option (Bool × Text)
  | '+' :: s => some (false, s)
  | '-' :: s => some (true, s)
  | '−' :: s => some (true, s)
  | _ => none

/-- Reads two digits. -/
def takePair? : Text → Option (Nat × Text)
  | a :: b :: s => if isDigit a && isDigit b then some (Decimal.value [a, b], s) else none
  | _ => none

/-- Reads a signed offset in hours and minutes as seconds, less than a day. -/
def takeHours? (s : Text) : Option (Int × Text) := do
  let (negative, s) ← takeSign? s
  let (hours, s) ← takePair? s
  let (minutes, s) ← takePair? (s.dropWhile fun c => c = ':' || Text.isBlank c)
  let seconds := hours * 3600 + minutes * 60
  if 59 < minutes || dayLength ≤ seconds then none
  else return (if negative then -seconds else seconds, s)

/-- Reads an offset from universal time in seconds: `UTC`, `Z` or hours and minutes. -/
def takeOffset? (s : Text) : Option (Int × Text) :=
  match s.trimStart with
  | [] => none
  | c :: t =>
    if ((c :: t).take 3).map Char.toUpper = "UTC".toList then some (0, t.drop 2)
    else if c = 'Z' || c = 'z' then some (0, t)
    else takeHours? (c :: t)

/-- Whether the year can be reckoned with. -/
def yearInRange (year : Int) : Bool := -262143 ≤ year && year ≤ 262142

/-- Reads a point in time. -/
def ofText? (s : Text) : Option Instant := do
  let (day, s) ← takeDate? s
  let s ← match s with
    | 'T' :: t => some t
    | 't' :: t => some t
    | ' ' :: t => some t
    | _ => none
  let (seconds, nanos, s) ← takeClock? s
  let (offset, rest) ← takeOffset? s
  let instant : Instant := ⟨day.toDays * dayLength + seconds - offset, nanos⟩
  if Text.blankLine rest && day.isValid && yearInRange day.year && yearInRange instant.date.year
  then return instant
  else none

end Instant

end Grading
