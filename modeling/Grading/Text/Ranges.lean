/-
The shape in which properties of the Unicode standard are carried as data:

* `inRanges`: membership in a list of closed ranges of code points;
* `CaseRun`: characters at a fixed step, all at the same distance from their image in a case
  mapping, and `CaseRun.image`, the character that a list of such runs assigns.
-/
import Grading.Text.Basic

namespace Grading

namespace Text

/-- Whether the code point of `c` lies in one of the closed ranges. -/
def inRanges (ranges : List (Nat × Nat)) (c : Char) : Bool :=
  ranges.any fun r => r.1 ≤ c.toNat && c.toNat ≤ r.2

/-- The characters `first`, `first + step`, … up to `last`, each mapped to the character `shift`
code points further on. -/
structure CaseRun where
  /-- The first code point of the run. -/
  first : Nat
  /-- The last code point of the run. -/
  last : Nat
  /-- The distance from one character of the run to the next. -/
  step : Nat
  /-- The distance from a character of the run to its image. -/
  shift : Int

/-- The code point that the run assigns to `n`, if `n` belongs to the run. -/
def CaseRun.assign? (r : CaseRun) (n : Nat) : Option Nat :=
  if r.first ≤ n ∧ n ≤ r.last ∧ (n - r.first) % r.step = 0 then
    some (n + r.shift).toNat
  else
    none

/-- The character that the first run holding `c` assigns to it, and `c` itself if none holds it. -/
def CaseRun.image (runs : List CaseRun) (c : Char) : Char :=
  match runs.findSome? (·.assign? c.toNat) with
  | some n => Char.ofNat n
  | none => c

end Text

end Grading
