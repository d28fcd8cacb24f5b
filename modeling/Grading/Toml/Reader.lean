/-
How TOML text is read.

* `readPath?`: dotted keys;
* `readValue?`: values; `readItems?` and `readPairs?` for lists and tables within a line;
* `Statement`, `readStatement?`: a key with its value, or a header;
* `Toml.read?`: the named values of a whole text.
-/
import Grading.Toml.Quoted
import Grading.Toml.Scalar

namespace Grading

namespace Toml

/-! ### Gaps -/

/-- The text without blanks in front. -/
def dropGap (s : Text) : Text := s.dropWhile isGap

/-- The text without blanks and a comment in front. -/
def dropComment (s : Text) : Text :=
  match dropGap s with
  | '#' :: t => t.dropWhile isPrintable
  | t => t

/-- The text after the end of a line, past blanks and a comment. -/
def afterLine? (s : Text) : Option Text :=
  match dropComment s with
  | [] => some []
  | t => afterNewline? t

/-- The text without blanks, comments and line ends in front. -/
def dropLinesWithin : Nat → Text → Text
  | 0, s => dropGap s
  | fuel + 1, s =>
    match afterNewline? (dropComment s) with
    | some t => dropLinesWithin fuel t
    | none => dropGap s

/-- The text without blanks, comments and line ends in front. -/
def dropLines (s : Text) : Text := dropLinesWithin s.length s

/-! ### Keys -/

/-- The greatest number of names in a key, and of lists and tables within each other. -/
def depthLimit : Nat := 79

/-- Whether a character may stand in a name without quotes. -/
def isBare (c : Char) : Bool := c.isAlphanum || c = '_' || c = '-'

/-- Reads a name. -/
def readName? : Text → Option (Text × Text)
  | '"' :: s => basic? s
  | '\'' :: s => literal? s
  | s =>
    let name := s.takeWhile isBare
    if name.isEmpty then none else some (name, s.drop name.length)

/-- Reads at most `fuel` names with points between them, and the blanks around them. -/
def readPathWithin? : Nat → Text → Option (List Text × Text)
  | 0, _ => none
  | fuel + 1, s =>
    match readName? (dropGap s) with
    | none => none
    | some (name, rest) =>
      match dropGap rest with
      | '.' :: t => (readPathWithin? fuel t).map fun p => (name :: p.1, p.2)
      | t => some ([name], t)

/-- Reads a dotted key and the blanks around it. -/
def readPath? (s : Text) : Option (List Text × Text) := readPathWithin? depthLimit s

/-! ### Values -/

/-- Whether a character may stand in a value that is one word. -/
def isWordChar (c : Char) : Bool := isBare c || c = '+' || c = '.' || c = ':'

/-- Reads a value that is one word, or a date and a time with a blank between them. -/
def readWord? (s : Text) : Option (Toml × Text) :=
  let word := s.takeWhile isWordChar
  let rest := s.drop word.length
  match rest with
  | ' ' :: t =>
    let next := t.takeWhile isWordChar
    if isDate word && !next.isEmpty then
      if isOffsetTime next then some (moment, t.drop next.length) else none
    else
      (ofWord? word).map fun v => (v, rest)
  | _ => (ofWord? word).map fun v => (v, rest)

/-- The table that pairs of dotted keys and values make. -/
def tableOfPairs? (pairs : List (List Text × Toml)) : Option Fields :=
  pairs.foldlM (fun fields p => assign? p.2 .inline p.1 fields) []

mutual

/-- Reads a value. Lists and tables lie at most `depth` deep within each other. -/
def readValue? : Nat → Nat → Text → Option (Toml × Text)
  | 0, _, _ => none
  | fuel + 1, depth, s =>
    match s with
    | '"' :: '"' :: '"' :: t => (basicLines? t).map fun p => (text p.1, p.2)
    | '\'' :: '\'' :: '\'' :: t => (literalLines? t).map fun p => (text p.1, p.2)
    | '"' :: t => (basic? t).map fun p => (text p.1, p.2)
    | '\'' :: t => (literal? t).map fun p => (text p.1, p.2)
    | '[' :: t =>
      match depth with
      | 0 => none
      | depth + 1 => (readItems? fuel depth t).map fun p => (array p.1, p.2)
    | '\x7b' :: t =>
      match depth with
      | 0 => none
      | depth + 1 =>
        match dropGap t with
        | '\x7d' :: rest => some (table .inline [], rest)
        | u =>
          match readPairs? fuel depth u with
          | some (pairs, rest) => (tableOfPairs? pairs).map fun fs => (table .inline fs, rest)
          | none => none
    | t => readWord? t

/-- Reads the items of a list up to its closing bracket. A comma may follow the last one. -/
def readItems? : Nat → Nat → Text → Option (List Toml × Text)
  | 0, _, _ => none
  | fuel + 1, depth, s =>
    match dropLines s with
    | ']' :: rest => some ([], rest)
    | t =>
      match readValue? fuel depth t with
      | none => none
      | some (v, rest) =>
        match dropLines rest with
        | ',' :: u => (readItems? fuel depth u).map fun p => (v :: p.1, p.2)
        | ']' :: u => some ([v], u)
        | _ => none

/-- Reads keys with their values up to the closing brace, at least one. -/
def readPairs? : Nat → Nat → Text → Option (List (List Text × Toml) × Text)
  | 0, _, _ => none
  | fuel + 1, depth, s =>
    match readPath? s with
    | some (path, '=' :: t) =>
      match readValue? fuel depth (dropGap t) with
      | none => none
      | some (v, rest) =>
        match dropGap rest with
        | ',' :: u => (readPairs? fuel depth u).map fun p => ((path, v) :: p.1, p.2)
        | '\x7d' :: u => some ([(path, v)], u)
        | _ => none
    | _ => none

end

/-! ### Statements -/

/-- A line that says something. -/
inductive Statement where
  /-- The header of a table. -/
  | header (path : List Text)
  /-- The header of a table in a list. -/
  | item (path : List Text)
  /-- A key with its value. -/
  | pair (path : List Text) (v : Toml)

/-- Reads a statement, up to the end of its line. -/
def readStatement? (s : Text) : Option (Statement × Text) :=
  match s with
  | '[' :: '[' :: t =>
    match readPath? t with
    | some (path, ']' :: ']' :: rest) => (afterLine? rest).map fun u => (.item path, u)
    | _ => none
  | '[' :: t =>
    match readPath? t with
    | some (path, ']' :: rest) => (afterLine? rest).map fun u => (.header path, u)
    | _ => none
  | t =>
    match readPath? t with
    | some (path, '=' :: rest) =>
      match readValue? (2 * s.length + 1) depthLimit (dropGap rest) with
      | some (v, rest) => (afterLine? rest).map fun u => (.pair path v, u)
      | none => none
    | _ => none

/-- The statements of a text, at most `fuel`. -/
def statementsWithin? : Nat → Text → Option (List Statement)
  | fuel, s =>
    match dropLines s with
    | [] => some []
    | '#' :: t => if (t.dropWhile isPrintable).isEmpty then some [] else none
    | t =>
      match fuel with
      | 0 => none
      | fuel + 1 =>
        match readStatement? t with
        | some (statement, rest) => (statementsWithin? fuel rest).map (statement :: ·)
        | none => none

/-- The statements of a text. A mark that tells the order of bytes may stand in front. -/
def statements? (s : Text) : Option (List Statement) :=
  match s with
  | '\ufeff' :: t => statementsWithin? t.length t
  | t => statementsWithin? t.length t

/-- What a statement does below the table of the given path, and the path of the table below which
the next one stands. -/
def perform? (state : List Text × Fields) (statement : Statement) : Option (List Text × Fields) :=
  let (current, fields) := state
  match statement with
  | .pair path v => (change? (assign? v .defined path) current fields).map fun fs => (current, fs)
  | .header path =>
    match path.getLast? with
    | some name => (change? (openTable? name) path.dropLast fields).map fun fs => (path, fs)
    | none => none
  | .item path =>
    match path.getLast? with
    | some name => (change? (openItem? name) path.dropLast fields).map fun fs => (path, fs)
    | none => none

/-- The named values of a text. -/
def read? (s : Text) : Option Fields := do
  let statements ← statements? s
  let (_, fields) ← statements.foldlM perform? ([], [])
  return fields

end Toml

end Grading
