/-
Lists of problems such as `1,4,5a-d,8-14 evens,23a-23c`. Entries stand between commas; blanks and
case do not matter. An entry is a problem, a range of numbers that may be restricted to odd or even
ones, or a range of the parts of one problem.

* `ListingError`: what is wrong with an entry;
* `expandEntry`: the problems of an entry;
* `expandListing`: the problems of a list.
-/
import Grading.Numbering.Basic
import Grading.Text.Case

namespace Grading

/-- What is wrong with an entry. -/
inductive ListingError where
  /-- There is more than one range. -/
  | multipleRanges (entry : Text)
  /-- Something is no problem number. -/
  | invalidNumber (entry : Text)
  /-- A range of parts is restricted to odd or even numbers. -/
  | partsWithParity (entry : Text)
  /-- A range ends before it starts. -/
  | reversed (entry : Text)
deriving DecidableEq, Repr

/-- How the error is told. -/
def ListingError.message : ListingError → Text
  | .multipleRanges entry =>
    "only one range is allowed per comma-separated entry: '".toList ++ entry ++ ['\'']
  | .invalidNumber entry => "invalid problem number: '".toList ++ entry ++ ['\'']
  | .partsWithParity entry =>
    "odds/evens cannot be combined with sub-part ranges: '".toList ++ entry ++ ['\'']
  | .reversed entry => "range is reversed: '".toList ++ entry ++ ['\'']

/-- Which numbers of a range are taken. -/
inductive Parity where
  /-- The odd ones. -/
  | odd
  /-- The even ones. -/
  | even
deriving DecidableEq, Repr

/-- Whether a number is taken. -/
def Parity.accepts : Parity → Nat → Bool
  | odd, n => n % 2 == 1
  | even, n => n % 2 == 0

/-- The words that restrict a range, at its end. -/
def parityWords : List (Text × Parity) :=
  [("evens".toList, .even), ("even".toList, .even), ("odds".toList, .odd), ("odd".toList, .odd)]

/-- An entry without the word that restricts it, and the restriction. -/
def splitParity (entry : Text) : Text × Option Parity :=
  match parityWords.findSome? fun w => (w.1.isSuffixOf? entry).map fun rest => (rest, w.2) with
  | some (rest, parity) => (rest, some parity)
  | none => (entry, none)

/-- Reads a problem number. -/
def readProblem (s : Text) : Except ListingError ProblemNumber :=
  match ProblemNumber.ofText? s with
  | some p => .ok p
  | none => .error (.invalidNumber s.trim)

/-- Reads the number at the end of a range, which may have a plus in front. -/
def readLast (entry last : Text) : Except ListingError Nat :=
  let body := match last with
    | '+' :: s => s
    | s => s
  match ProblemNumber.readLimited? body with
  | some n => .ok n
  | none => .error (.invalidNumber entry)

/-- Reads the letter at the end of a range of parts of the problem `number`: a letter alone, or
that problem with a part. -/
def readLastPart (number : Nat) (entry last : Text) : Except ListingError Char :=
  let problem : Except ListingError Char := do
    let p ← readProblem last
    match p.part with
    | some c => if p.number = number then .ok c else .error (.invalidNumber entry)
    | none => .error (.invalidNumber entry)
  match last with
  | [c] => if c.isAlpha then .ok c else problem
  | _ => problem

/-- The parts of a problem from one letter to another. -/
def partRange (number : Nat) (first last : Char) : List ProblemNumber :=
  (List.range' first.toNat (last.toNat + 1 - first.toNat)).map fun n =>
    ⟨number, some (Char.ofNat n)⟩

/-- The problems from one number to another, those of the parity only if there is one. -/
def numberRange (parity : Option Parity) (first last : Nat) : List ProblemNumber :=
  ((List.range' first (last + 1 - first)).filter fun n => parity.all fun p => p.accepts n).map
    fun n => ⟨n, none⟩

/-- The problems of a range. -/
def expandRange (entry : Text) (parity : Option Parity) (first last : Text) :
    Except ListingError (List ProblemNumber) := do
  let start ← readProblem first
  match start.part with
  | some c =>
    if parity.isSome then .error (.partsWithParity entry)
    else
      let d ← readLastPart start.number entry last
      if d < c then .error (.reversed entry) else .ok (partRange start.number c d)
  | none =>
    let n ← readLast entry last
    if n < start.number then .error (.reversed entry)
    else .ok (numberRange parity start.number n)

/-- The problems of an entry that has neither blanks nor capital letters. -/
def expandEntry (entry : Text) : Except ListingError (List ProblemNumber) :=
  let (range, parity) := splitParity entry
  match range.pieces '-', parity with
  | [single], none => (readProblem single).map ([·])
  | [_], some _ => .error (.invalidNumber entry)
  | [first, last], _ => expandRange entry parity first last
  | _, _ => .error (.multipleRanges entry)

/-- The entries of a list, without blanks and in lower case. Empty ones are left out. -/
def listingEntries (list : Text) : List Text :=
  ((list.pieces ',').map fun entry => entry.squeeze.lower).filter fun entry => !entry.isEmpty

/-- The problems of a list, entry by entry. The first entry that is wrong is the error. -/
def expandListing (list : Text) : Except ListingError (List ProblemNumber) :=
  ((listingEntries list).mapM expandEntry).map List.flatten

end Grading
