/-
Grading an answer. The alternatives of the problem are tried in the author's order, and the first
one that the answer matches decides.

* `search`: tries alternatives up to the first match;
* `Judgement`: an answer with the alternatives that were tried and the one that matched;
* `Problem.mark`: what the answer earns;
* `Problem.events`: what is logged on the way.
-/
import Grading.Answer.Event
import Grading.Answer.Mark
import Grading.Answer.Normal

namespace Grading

/-- Tries alternatives in order up to the first that the answer matches. The result holds the
normal forms of the tried values and the alternative that matched. -/
def search (rules : Rules) (answer : Text) :
    List Alternative → List Normal × Option (Alternative × MatchKind)
  | [] => ([], none)
  | a :: others =>
    let accepted := normalize rules a.value
    match a.match? rules accepted.text answer with
    | some kind => ([accepted], some (a, kind))
    | none =>
      let (tried, found) := search rules answer others
      (accepted :: tried, found)

/-- An answer with the alternatives it was compared with. -/
structure Judgement where
  /-- The answer in normal form. -/
  answer : Normal
  /-- The values it was compared with, in order. -/
  tried : List Normal
  /-- The alternative that it matches, and how. -/
  found : Option (Alternative × MatchKind)

/-- The faults that were met: that of the answer, then those of the values tried. -/
def Judgement.faults (j : Judgement) : List DivisionByZero :=
  (j.answer :: j.tried).filterMap Normal.fault

namespace Problem

/-- Compares an answer with the alternatives of the problem. -/
def judge (rules : Rules) (p : Problem) (raw : Text) : Judgement :=
  let answer := normalize rules raw
  let (tried, found) := search rules answer.text p.alternatives
  ⟨answer, tried, found⟩

/-- What an answer earns. -/
def mark (rules : Rules) (p : Problem) (raw : Text) : Mark :=
  let j := p.judge rules raw
  let diagnostics := j.faults.map DivisionByZero.message
  match j.found with
  | some (a, _) => p.creditMark rules a j.answer.text diagnostics
  | none => p.incorrectMark rules j.answer.text diagnostics

/-- What is logged while an answer is graded. -/
def events (rules : Rules) (p : Problem) (raw : Text) : List Event :=
  let j := p.judge rules raw
  j.faults.map Event.unconverted ++
    [match j.found with
      | some (a, kind) => .matched p.number j.answer.text a.value kind
      | none => .unmatched p.number j.answer.text]

end Problem

end Grading
