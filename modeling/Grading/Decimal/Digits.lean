/-
Whole numbers as decimal digits:

* `digits`: the digits of a number, most significant first, with `0` for zero;
* `value`: the number that a row of digits stands for;
* `isDigit`: the ten ASCII digits, the only ones that numbers are written with here;
* `readNat?`: the number a non-empty row of digits stands for;
* `wordCount`: how many numbers fit into 64 bits.
-/
import Grading.Text.Basic

namespace Grading

namespace Decimal

/-- Whether a character is one of the ten ASCII digits. -/
def isDigit (c : Char) : Bool := '0' ≤ c && c ≤ '9'

/-- The number that a digit stands for. -/
def digitValue (c : Char) : Nat := c.toNat - '0'.toNat

/-- The digit that stands for a number below ten. -/
def digitChar (d : Nat) : Char := Char.ofNat ('0'.toNat + d)

/-- The digits of a number, least significant first. -/
def digitsUp (n : Nat) : Text :=
  if n < 10 then [digitChar n] else digitChar (n % 10) :: digitsUp (n / 10)

/-- The digits of a number, most significant first. -/
def digits (n : Nat) : Text := (digitsUp n).reverse

/-- The number that a row of digits stands for, most significant first. -/
def value (s : Text) : Nat := s.foldl (fun n c => 10 * n + digitValue c) 0

/-- Whether the text is a non-empty row of digits. -/
def isDigits (s : Text) : Bool := !s.isEmpty && s.all isDigit

/-- The number that a non-empty row of digits stands for. -/
def readNat? (s : Text) : Option Nat := if isDigits s then some (value s) else none

/-- The number of values of 64 bits. -/
def wordCount : Nat := 0x1_0000_0000_0000_0000

/-- The digits of a number, with zeros in front up to `width` characters. -/
def padded (width n : Nat) : Text :=
  List.replicate (width - (digits n).length) '0' ++ digits n

end Decimal

end Grading
