/-
How JSON text is read, in two steps.

* `Token`, `nextToken?`, `tokens?`: brackets, commas, colons, strings, and words, which are numbers,
  truth values and `null`; blanks between them count for nothing;
* `readValue`, `readItems`, `readFields`: values from tokens;
* `Json.read?`: the value of a whole text.
-/
import Grading.Json.Basic
import Grading.Json.Numeric

namespace Grading

namespace Json

/-- A unit of JSON text. -/
inductive Token where
  /-- A bracket, a comma or a colon. -/
  | mark (c : Char)
  /-- A string, as it stands between the quotes. -/
  | quoted (spelling : Text)
  /-- A number or a word. -/
  | word (spelling : Text)
deriving DecidableEq, Repr

/-- Whether a character may stand between tokens. -/
def isGap (c : Char) : Bool := c = ' ' || c = '\n' || c = '\t' || c = '\r'

/-- Whether a character is a token by itself. -/
def isMark (c : Char) : Bool := "[]\x7b\x7d,:".toList.contains c

/-- Whether a character may stand in a word. -/
def isWordChar (c : Char) : Bool := c.isAlphanum || c = '-' || c = '+' || c = '.'

/-- The token at the start of a text without a gap in front, and what follows it. -/
def nextToken? : Text → Option (Token × Text)
  | [] => none
  | '"' :: s => (scanQuoted s).map fun p => (.quoted p.1, p.2)
  | c :: s =>
    if isMark c then some (.mark c, s)
    else if isWordChar c then
      some (.word (c :: s.takeWhile isWordChar), s.dropWhile isWordChar)
    else
      none

/-- The tokens of a text, of which at most `fuel` are read. -/
def tokensWithin? : Nat → Text → Option (List Token)
  | 0, s => if (s.dropWhile isGap).isEmpty then some [] else none
  | fuel + 1, s =>
    match s.dropWhile isGap with
    | [] => some []
    | t =>
      match nextToken? t with
      | some (token, rest) => (tokensWithin? fuel rest).map (token :: ·)
      | none => none

/-- The tokens of a text. There are no more of them than characters. -/
def tokens? (s : Text) : Option (List Token) := tokensWithin? s.length s

/-- The value that a word stands for. -/
def ofWord? (w : Text) : Option Json :=
  if w = "null".toList then some null
  else if w = "true".toList then some (bool true)
  else if w = "false".toList then some (bool false)
  else if (splitNumeric? w).isSome then some (number w)
  else none

mutual

/-- The value that tokens start with, and what follows it. -/
def readValue : Nat → List Token → Option (Json × List Token)
  | 0, _ => none
  | _ + 1, [] => none
  | fuel + 1, token :: ts =>
    match token with
    | .quoted s => some (string s, ts)
    | .word w => (ofWord? w).map fun j => (j, ts)
    | .mark '[' =>
      match ts with
      | .mark ']' :: rest => some (array [], rest)
      | _ => (readItems fuel ts).map fun p => (array p.1, p.2)
    | .mark '\x7b' =>
      match ts with
      | .mark '\x7d' :: rest => some (object [], rest)
      | _ => (readFields fuel ts).map fun p => (object p.1, p.2)
    | .mark _ => none

/-- The items of a list up to its closing bracket, at least one. -/
def readItems : Nat → List Token → Option (List Json × List Token)
  | 0, _ => none
  | fuel + 1, ts =>
    match readValue fuel ts with
    | some (item, .mark ',' :: rest) => (readItems fuel rest).map fun p => (item :: p.1, p.2)
    | some (item, .mark ']' :: rest) => some ([item], rest)
    | _ => none

/-- Named values up to the closing bracket, at least one. -/
def readFields : Nat → List Token → Option (List (Text × Json) × List Token)
  | fuel + 1, .quoted name :: .mark ':' :: ts =>
    match readValue fuel ts with
    | some (value, .mark ',' :: rest) =>
      (readFields fuel rest).map fun p => ((name, value) :: p.1, p.2)
    | some (value, .mark '\x7d' :: rest) => some ([(name, value)], rest)
    | _ => none
  | _, _ => none

end

/-- The value of a whole text. Every step into a value takes a token, and the step into a list
none, so that twice the tokens suffice. -/
def read? (s : Text) : Option Json := do
  let ts ← tokens? s
  match ← readValue (2 * ts.length + 1) ts with
  | (j, []) => return j
  | _ => none

end Json

end Grading
