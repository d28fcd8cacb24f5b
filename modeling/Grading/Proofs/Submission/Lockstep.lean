/-
Submissions are graded line by line against the key.

* `expectedMark`: the mark of a key line, given the line of the submission at the same place;
* `lockstep`, `marks_eq_lockstep`: all the marks at once; an error comes first from the key lines
  that answers reach, and then from the answers that the key has no line for;
* `exists_expectedMark_of_mem`: each of them is the mark of a key line;
* `consumedPairs`, `filter_isMisnumbered_lineEvents`: the pairs of lines that are taken, which are
  those that different numbers are told of;
* `grade_lockstep`: the report and what is logged, as a whole.
-/
import Grading.Proofs.Problem.Reading
import Grading.Submission.Basic

namespace Grading

variable {rules : Rules} {student : Text} {answers : List NumberedLine} {key : Key}
  {answer line : NumberedLine}

/-! ### The mark of a key line -/

/-- A problem without an answer: incorrect, with no points, and with the solution of the key line,
if it can be read and has one. -/
def unansweredLine (rules : Rules) (line : NumberedLine) : ProblemMark :=
  let solution := (Problem.ofKeyLine line).toOption.bind Problem.solution?
  { number := line.number
    answered := false
    mark :=
      { verdict := .incorrect
        points := 0
        maxPoints := rules.pointValue
        answer := []
        matched := none
        solution := solution
        feedback := solutionFeedback solution
        diagnostics := [] } }

/-- The mark of a key line, given the line of the submission at the same place, if there is one. -/
def expectedMark (rules : Rules) (answer? : Option NumberedLine) (line : NumberedLine) :
    ProblemMark :=
  match answer?.filter (fun a => !a.text.isEmpty), Problem.ofKeyLine line with
  | some answer, .ok p => ⟨answer.number, true, p.mark rules answer.text⟩
  | _, _ => unansweredLine rules line

/-- All the marks, unless an answer reaches a key line that cannot be read or finds no key line. -/
def lockstep (rules : Rules) (answers : List NumberedLine) (key : Key) :
    Except GradingError (List ProblemMark) :=
  match (key.take answers.length).findSome? NumberedLine.fault?, answers[key.length]? with
  | some fault, _ => .error fault
  | none, some answer => .error (.exhausted answer.number)
  | none, none => .ok (key.mapIdx fun i line => expectedMark rules answers[i]? line)

/-- A problem that counts as unanswered has the mark of its key line. -/
lemma unanswered_eq {p : Problem} (h : Problem.ofKeyLine line = .ok p) :
    unanswered rules p = unansweredLine rules line := by
  rw [unanswered, unansweredLine, h, number_of_ofKeyLine h]
  rfl

lemma leftOver_eq (rules : Rules) (line : NumberedLine) :
    leftOver rules line = expectedMark rules none line := by
  rw [leftOver, expectedMark, Option.filter_none]
  cases h : Problem.ofKeyLine line with
  | error e =>
      rw [unansweredLine, h]
      rfl
  | ok p => exact unanswered_eq h

lemma markLine_eq {p : Problem} (h : Problem.ofKeyLine line = .ok p) (answer : NumberedLine) :
    markLine rules p answer = expectedMark rules (some answer) line := by
  rw [markLine, expectedMark, h]
  cases htext : answer.text.isEmpty with
  | true =>
      rw [if_pos rfl, Option.filter_some_neg (by simp [htext])]
      exact unanswered_eq h
  | false =>
      rw [if_neg (by simp), Option.filter_some_pos (by simp [htext])]

/-! ### All the marks -/

lemma length_numberedLines (text : Text) :
    (numberedLines text).length = (Text.writtenLines text).length :=
  List.length_mapIdx

lemma lockstep_nil (rules : Rules) (key : Key) :
    lockstep rules [] key = .ok (key.map (leftOver rules)) := by
  have hmarks : key.mapIdx (fun _ line => expectedMark rules none line)
      = key.map (leftOver rules) := by
    refine List.ext_getElem (by simp) fun i h₁ h₂ => ?_
    rw [List.getElem_mapIdx, List.getElem_map, leftOver_eq]
  simpa [lockstep] using hmarks

/-- A pair of lines whose key line can be read gives the first mark. -/
lemma lockstep_cons_cons (hfault : line.fault? = none) :
    lockstep rules (answer :: answers) (line :: key)
      = (lockstep rules answers key).map (expectedMark rules (some answer) line :: ·) := by
  rw [lockstep, lockstep, List.length_cons, List.length_cons, List.take_succ_cons,
    List.findSome?_cons, hfault, List.getElem?_cons_succ]
  cases (key.take answers.length).findSome? NumberedLine.fault? with
  | some fault => rfl
  | none =>
      cases answers[key.length]? with
      | some extra => rfl
      | none =>
          simp only [List.mapIdx_cons, List.getElem?_cons_zero, List.getElem?_cons_succ]
          rfl

/-- The marks, taken pair by pair, are those that the lines at the same places have. -/
lemma marks_eq_lockstep (rules : Rules) (answers : List NumberedLine) (key : Key) :
    marks rules answers key = lockstep rules answers key := by
  induction answers generalizing key with
  | nil => rw [lockstep_nil, marks]
  | cons answer answers ih =>
      cases key with
      | nil => simp [marks, lockstep]
      | cons line key =>
          cases hline : Problem.ofKeyLine line with
          | error e =>
              have hfault := fault?_eq_some_iff.mpr hline
              rw [marks, hline]
              simp [lockstep, hfault]
              rfl
          | ok p =>
              have hfault : line.fault? = none := by rw [← errorOf_ofKeyLine, hline, errorOf_ok]
              rw [marks, hline, ih, lockstep_cons_cons hfault, ← markLine_eq hline]
              rfl

/-- The marks are those of the key lines, each with the answer at its place. -/
lemma eq_of_marks {problems : List ProblemMark} (h : marks rules answers key = .ok problems) :
    problems = key.mapIdx fun i line => expectedMark rules answers[i]? line := by
  rw [marks_eq_lockstep, lockstep] at h
  split at h
  case h_1 => cases h
  case h_2 => cases h
  case h_3 => exact (Except.ok.inj h).symm

/-- Each is the mark of a key line, with an answer of the submission or without one. -/
lemma exists_expectedMark_of_mem {problems : List ProblemMark} {problem : ProblemMark}
    (h : marks rules answers key = .ok problems) (hproblem : problem ∈ problems) :
    ∃ line ∈ key, ∃ answer?, (∀ answer, answer? = some answer → answer ∈ answers)
      ∧ expectedMark rules answer? line = problem := by
  rw [eq_of_marks h] at hproblem
  obtain ⟨i, hi, rfl⟩ := List.mem_mapIdx.mp hproblem
  exact ⟨key[i], List.getElem_mem hi, answers[i]?, fun _ => List.mem_of_getElem?, rfl⟩

/-! ### What is logged about numbers -/

/-- Whether the event tells of an answer whose number is not that of its key line. -/
def Event.isMisnumbered : Event → Bool
  | .misnumbered .. => true
  | _ => false

/-- The pairs of lines that are taken: up to the first whose key line cannot be read, with it. -/
def consumedPairs (answers : List NumberedLine) (key : Key) : List (NumberedLine × NumberedLine) :=
  let pairs := answers.zip key
  pairs.take (pairs.findIdx (fun p => p.2.fault?.isSome) + 1)

lemma consumedPairs_cons_of_fault (h : line.fault?.isSome) :
    consumedPairs (answer :: answers) (line :: key) = [(answer, line)] := by
  simp [consumedPairs, List.findIdx_cons, h]

lemma consumedPairs_cons (h : line.fault? = none) :
    consumedPairs (answer :: answers) (line :: key)
      = (answer, line) :: consumedPairs answers key := by
  simp [consumedPairs, List.findIdx_cons, h]

lemma filter_isMisnumbered_numberEvents (student : Text) (answer line : NumberedLine) :
    (numberEvents student answer line).filter Event.isMisnumbered
      = numberEvents student answer line := by
  rw [numberEvents]
  split <;> rfl

/-- Of an answer nothing is logged that tells of numbers. -/
lemma filter_isMisnumbered_events (rules : Rules) (p : Problem) (raw : Text) :
    (p.events rules raw).filter Event.isMisnumbered = [] := by
  rw [List.filter_eq_nil_iff, Problem.events]
  intro event hevent
  rcases List.mem_append.mp hevent with hevent | hevent
  · obtain ⟨fault, -, rfl⟩ := List.mem_map.mp hevent
    simp [Event.isMisnumbered]
  · rw [List.mem_singleton.mp hevent]
    split <;> simp [Event.isMisnumbered]

lemma filter_isMisnumbered_leftOverEvents (line : NumberedLine) :
    (leftOverEvents line).filter Event.isMisnumbered = [] := by
  rw [leftOverEvents]
  split <;> rfl

/-- Different numbers are told of exactly for the pairs that are taken. -/
lemma filter_isMisnumbered_lineEvents (rules : Rules) (student : Text)
    (answers : List NumberedLine) (key : Key) :
    (lineEvents rules student answers key).filter Event.isMisnumbered
      = (consumedPairs answers key).flatMap fun p => numberEvents student p.1 p.2 := by
  induction answers generalizing key with
  | nil =>
      rw [lineEvents, List.filter_flatMap]
      simp [filter_isMisnumbered_leftOverEvents, consumedPairs]
  | cons answer answers ih =>
      cases key with
      | nil => simp [lineEvents, consumedPairs]
      | cons line key =>
          rw [lineEvents, List.filter_append, filter_isMisnumbered_numberEvents]
          cases hline : Problem.ofKeyLine line with
          | error e =>
              -- a fault stops the walk before this pair
              have hfault : line.fault?.isSome := by rw [fault?_eq_some_iff.mpr hline]; rfl
              rw [consumedPairs_cons_of_fault hfault]
              simp
          | ok p =>
              have hfault : line.fault? = none := by rw [← errorOf_ofKeyLine, hline, errorOf_ok]
              have hanswer : ((if answer.text.isEmpty then []
                  else p.events rules answer.text).filter Event.isMisnumbered) = [] := by
                split
                · rfl
                · exact filter_isMisnumbered_events rules p answer.text
              rw [consumedPairs_cons hfault, List.flatMap_cons, List.filter_append, hanswer, ih]
              rfl

/-- The pairs with different numbers, each told of. -/
lemma flatMap_numberEvents (student : Text) (pairs : List (NumberedLine × NumberedLine)) :
    (pairs.flatMap fun p => numberEvents student p.1 p.2)
      = (pairs.filter fun p => p.1.number ≠ p.2.number).map fun p =>
          .misnumbered student p.1.number p.2.number := by
  induction pairs with
  | nil => rfl
  | cons p pairs ih =>
      rw [List.flatMap_cons, ih, numberEvents]
      by_cases h : p.1.number = p.2.number <;> simp [h]

/-! ### The report -/

namespace Submission

/-- A report is made of marks. -/
lemma exists_marks_of_grade {s : Submission} {report : Report}
    (h : s.grade rules key = .ok report) :
    ∃ problems, marks rules (numberedLines s.text) key = .ok problems
      ∧ Report.ofMarks s.student problems = report := by
  rw [grade] at h
  cases hmarks : marks rules (numberedLines s.text) key with
  | error e => rw [hmarks] at h; cases h
  | ok problems =>
      rw [hmarks] at h
      exact ⟨problems, rfl, Except.ok.inj h⟩

/-- What grading should give, by the lines at the same places: the error of the first key line that
an answer reaches and that cannot be read; or else that the key has no line for an answer; or else
the marks of all key lines in order, with their sums from the first to the last. -/
def expected (rules : Rules) (key : Key) (s : Submission) : Except GradingError Report :=
  (lockstep rules (numberedLines s.text) key).map fun problems =>
    { student := s.student
      problems := problems
      total := (problems.map fun p => p.mark.points).foldl (· + ·) (-0.0)
      maxPoints := (problems.map fun p => p.mark.maxPoints).foldl (· + ·) (-0.0) }

end Submission

/-- **Grading in lockstep**: a report, or the error that stops the grading, is what the lines at the
same places give, and different numbers are told of exactly for the pairs that are taken. -/
theorem grade_lockstep (rules : Rules) (key : Key) (s : Submission) :
    s.grade rules key = s.expected rules key
      ∧ (s.events rules key).filter Event.isMisnumbered
        = ((consumedPairs (numberedLines s.text) key).filter fun p =>
            p.1.number ≠ p.2.number).map fun p =>
              .misnumbered s.student p.1.number p.2.number := by
  constructor
  · rw [Submission.grade, Submission.expected, marks_eq_lockstep]
    rfl
  · rw [Submission.events, filter_isMisnumbered_lineEvents, flatMap_numberEvents]

end Grading
