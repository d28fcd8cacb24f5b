/-
TOML strings. Each reader takes the text after the opening quotes and splits at the closing ones.

* `readEscape?`: what an escape stands for;
* `basic?`, `literal?`: strings on one line, with and without escapes;
* `basicLines?`, `literalLines?`: strings over several lines.
-/
import Grading.Json.Quoted
import Grading.Toml.Basic

namespace Grading

namespace Toml

/-- Whether a character may stand between words on a line. -/
def isGap (c : Char) : Bool := c = ' ' || c = '\t'

/-- Whether a character may stand in a string, quotes and backslashes aside: all but the control
characters other than the tab. -/
def isPrintable (c : Char) : Bool := c = '\t' || (0x20 ≤ c.toNat && c.toNat ≠ 0x7F)

/-- The characters that an escape of one letter stands for. -/
def escapeLetters : List (Char × Char) :=
  [('b', Char.ofNat 8), ('t', '\t'), ('n', '\n'), ('f', Char.ofNat 12), ('r', '\r'), ('"', '"'),
   ('\\', '\\')]

/-- The character whose code point is written with so many hexadecimal digits. -/
def readCodePoint? (width : Nat) (s : Text) : Option (Char × Text) :=
  let ds := s.take width
  if ds.length = width then
    match ds.mapM Json.hexValue? with
    | some vs => (Json.scalar? (vs.foldl (fun n d => 16 * n + d) 0)).map fun c => (c, s.drop width)
    | none => none
  else
    none

/-- The character that an escape stands for, after its backslash. -/
def readEscape? : Text → Option (Char × Text)
  | [] => none
  | 'u' :: s => readCodePoint? 4 s
  | 'U' :: s => readCodePoint? 8 s
  | c :: s => (escapeLetters.lookup c).map fun x => (x, s)

/-- The text after a line end, if there is one. -/
def afterNewline? : Text → Option Text
  | '\n' :: s => some s
  | '\r' :: '\n' :: s => some s
  | _ => none

/-- The text without a line end in front. -/
def dropNewline (s : Text) : Text := (afterNewline? s).getD s

/-- The text without blanks and line ends in front. -/
def dropSpace : Text → Text
  | '\r' :: '\n' :: s => dropSpace s
  | c :: s => if isGap c || c = '\n' then dropSpace s else c :: s
  | [] => []

/-- The text after three closing quotes. Up to two quotes in front of them belong to the string. -/
def closeLines (quote : Char) (s : Text) : Text × Text :=
  let extra := (s.take 2).takeWhile (· = quote)
  (extra, s.drop extra.length)

/-- Splits a string with escapes, of at most `fuel` characters, at its closing quote. -/
def basicWithin? : Nat → Text → Option (Text × Text)
  | 0, _ => none
  | _, [] => none
  | _, '"' :: s => some ([], s)
  | fuel + 1, '\\' :: s =>
    match readEscape? s with
    | some (c, rest) => (basicWithin? fuel rest).map fun p => (c :: p.1, p.2)
    | none => none
  | fuel + 1, c :: s =>
    if isPrintable c then (basicWithin? fuel s).map fun p => (c :: p.1, p.2) else none

/-- Splits a string with escapes at its closing quote. -/
def basic? (s : Text) : Option (Text × Text) := basicWithin? s.length s

/-- Splits a string without escapes at its closing quote. -/
def literal? : Text → Option (Text × Text)
  | [] => none
  | c :: s =>
    if c = '\'' then some ([], s)
    else if isPrintable c then (literal? s).map fun p => (c :: p.1, p.2)
    else none

/-- Splits a string with escapes over several lines, of at most `fuel` characters, at its closing
quotes. A backslash at the end of a line takes away the space up to the next character. -/
def basicLinesWithin? : Nat → Text → Option (Text × Text)
  | 0, _ => none
  | _, [] => none
  | _, '"' :: '"' :: '"' :: s => some (closeLines '"' s)
  | fuel + 1, '\\' :: s =>
    match afterNewline? (s.dropWhile isGap) with
    | some rest => basicLinesWithin? fuel (dropSpace rest)
    | none =>
      match readEscape? s with
      | some (c, rest) => (basicLinesWithin? fuel rest).map fun p => (c :: p.1, p.2)
      | none => none
  | fuel + 1, '\r' :: '\n' :: s => (basicLinesWithin? fuel s).map fun p => ('\n' :: p.1, p.2)
  | fuel + 1, c :: s =>
    if isPrintable c || c = '\n' then (basicLinesWithin? fuel s).map fun p => (c :: p.1, p.2)
    else none

/-- Splits a string with escapes over several lines at its closing quotes. -/
def basicLines? (s : Text) : Option (Text × Text) := basicLinesWithin? s.length (dropNewline s)

/-- Splits a string without escapes over several lines at its closing quotes, past the first line
end. -/
def literalLinesBody? : Text → Option (Text × Text)
  | '\'' :: '\'' :: '\'' :: s => some (closeLines '\'' s)
  | '\r' :: '\n' :: s => (literalLinesBody? s).map fun p => ('\n' :: p.1, p.2)
  | c :: s =>
    if isPrintable c || c = '\n' then (literalLinesBody? s).map fun p => (c :: p.1, p.2) else none
  | [] => none

/-- Splits a string without escapes over several lines at its closing quotes. -/
def literalLines? (s : Text) : Option (Text × Text) := literalLinesBody? (dropNewline s)

end Toml

end Grading
