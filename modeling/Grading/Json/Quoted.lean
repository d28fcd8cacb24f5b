/-
The text between the quotes of a JSON string.

* `escape`: how a text is written there: quotes, backslashes and the control characters below
  U+0020 are escaped, and nothing else;
* `scanQuoted`: finds the closing quote;
* `unescape?`: the text that is written there. An escaped surrogate stands for a character only
  together with its partner.
-/
import Grading.Decimal.Digits

namespace Grading

namespace Json

/-- The digit that stands for a number below sixteen. -/
def hexDigit (n : Nat) : Char := if n < 10 then Decimal.digitChar n else Char.ofNat (n + 87)

/-- The number that a hexadecimal digit in either case stands for. -/
def hexValue? (c : Char) : Option Nat :=
  if Decimal.isDigit c then some (Decimal.digitValue c)
  else if 'a' ≤ c && c ≤ 'f' then some (c.toNat - 87)
  else if 'A' ≤ c && c ≤ 'F' then some (c.toNat - 55)
  else none

/-- The control characters that have an escape of one letter. -/
def shortEscapes : List (Char × Char) :=
  [(Char.ofNat 8, 'b'), ('\t', 't'), ('\n', 'n'), (Char.ofNat 12, 'f'), ('\r', 'r')]

/-- How a character is written between quotes. -/
def escapeChar (c : Char) : Text :=
  if c = '"' || c = '\\' then ['\\', c]
  else if c.toNat < 0x20 then
    match shortEscapes.lookup c with
    | some letter => ['\\', letter]
    | none => ['\\', 'u', '0', '0', hexDigit (c.toNat / 16), hexDigit (c.toNat % 16)]
  else [c]

/-- How a text is written between quotes. -/
def escape (s : Text) : Text := s.flatMap escapeChar

/-- The characters that an escape of one letter stands for. -/
def escapeLetters : List (Char × Char) :=
  [('"', '"'), ('\\', '\\'), ('/', '/'), ('b', Char.ofNat 8), ('f', Char.ofNat 12), ('n', '\n'),
   ('r', '\r'), ('t', '\t')]

/-- The number that four hexadecimal digits stand for. -/
def hexQuad? (a b c d : Char) : Option Nat := do
  return (((← hexValue? a) * 16 + (← hexValue? b)) * 16 + (← hexValue? c)) * 16 + (← hexValue? d)

/-- Splits at the closing quote. Every escape before it is one that there is, and no control
character stands there unescaped. -/
def scanQuoted : Text → Option (Text × Text)
  | [] => none
  | '"' :: s => some ([], s)
  | '\\' :: 'u' :: a :: b :: c :: d :: s =>
    if (hexQuad? a b c d).isSome then
      (scanQuoted s).map fun p => ('\\' :: 'u' :: a :: b :: c :: d :: p.1, p.2)
    else
      none
  | '\\' :: c :: s =>
    if (escapeLetters.lookup c).isSome then (scanQuoted s).map fun p => ('\\' :: c :: p.1, p.2)
    else none
  | c :: s =>
    if c.toNat < 0x20 || c = '\\' then none
    else (scanQuoted s).map fun p => (c :: p.1, p.2)

/-- The character of a code point, which is not a surrogate. -/
def scalar? (n : Nat) : Option Char := if n.isValidChar then some (Char.ofNat n) else none

/-- The character of a pair of surrogates. -/
def pair? (high low : Nat) : Option Char :=
  if 0xD800 ≤ high ∧ high < 0xDC00 ∧ 0xDC00 ≤ low ∧ low < 0xE000 then
    scalar? (0x10000 + (high - 0xD800) * 0x400 + (low - 0xDC00))
  else
    none

/-- The text that is written between quotes. -/
def unescape? : Text → Option Text
  | [] => some []
  | '\\' :: 'u' :: a :: b :: c :: d :: s =>
    match hexQuad? a b c d with
    | none => none
    | some n =>
      match scalar? n with
      | some x => (unescape? s).map (x :: ·)
      | none =>
        match s with
        | '\\' :: 'u' :: e :: f :: g :: h :: t =>
          match (hexQuad? e f g h).bind (pair? n) with
          | some x => (unescape? t).map (x :: ·)
          | none => none
        | _ => none
  | '\\' :: c :: s =>
    match escapeLetters.lookup c with
    | some x => (unescape? s).map (x :: ·)
    | none => none
  | c :: s => (unescape? s).map (c :: ·)

end Json

end Grading
