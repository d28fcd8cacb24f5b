/-
The fields of a graded problem agree with each other and with the key line.

* `Mark.HasShape`: what belongs to each verdict;
* `ProblemMark.Consistent`: the mark of a problem has exactly one of these shapes, by an alternative
  of its key line, and one without an answer counts as incorrect;
* `consistent_expectedMark`: so are the marks of answers that match, of those that do not, and of
  problems without an answer, be their key lines readable or not;
* `grade_consistent`: so are all problems of a report, and their verdicts add up to the key.
-/
import Grading.Proofs.Answer.Acceptance
import Grading.Proofs.Problem.Ratio
import Grading.Proofs.Submission.Lockstep

namespace Grading

variable {rules : Rules} {s : Submission} {report : Report} {key : Key} {line : NumberedLine}
variable {a : Alternative} {p : Problem}

/-! ### Shapes -/

/-- Whether a mark has all that belongs to a verdict: for a correct answer an alternative with the
ratio one, all the points and its feedback; for partial credit an alternative with a ratio between
minus one and one, that share of the points and its feedback; otherwise no alternative, no points,
and the solution as feedback, if there is one. -/
def Mark.HasShape (rules : Rules) (m : Mark) : Verdict → Prop
  | .correct => m.verdict = .correct ∧ ∃ a, m.matched = some a ∧ a.ratio = 1
      ∧ m.points = rules.pointValue * 1 ∧ m.feedback = a.feedback
  | .partialCredit => m.verdict = .partialCredit ∧ ∃ a, m.matched = some a
      ∧ -1 < a.ratio ∧ a.ratio < 1
      ∧ m.points = rules.pointValue * a.ratio ∧ m.feedback = a.feedback
  | .incorrect => m.verdict = .incorrect ∧ m.matched = none ∧ m.points = 0
      ∧ m.feedback = (m.solution.map ("Solution: ".toList ++ ·)).getD []

namespace Mark.HasShape

variable {m : Mark} {v : Verdict}

lemma verdict_eq (h : m.HasShape rules v) : m.verdict = v := by
  cases v <;> exact h.1

/-- A mark has one shape at most. -/
lemma existsUnique (h : m.HasShape rules v) : ∃! v, m.HasShape rules v :=
  ⟨v, h, fun _ h' => h'.verdict_eq.symm.trans h.verdict_eq⟩

lemma incorrectMark (rules : Rules) (p : Problem) (answer : Text) (diagnostics : List Text) :
    (p.incorrectMark rules answer diagnostics).HasShape rules .incorrect := by
  refine ⟨rfl, rfl, rfl, ?_⟩
  rw [Problem.incorrectMark]
  cases p.solution? <;> rfl

/-- The mark of an answer that matches an alternative has a shape by the ratio of that. -/
lemma creditMark (rules : Rules) (hratio : a.ratio = 1 ∨ -1 < a.ratio ∧ a.ratio < 1) (p : Problem)
    (answer : Text) (diagnostics : List Text) :
    ∃ v, (p.creditMark rules a answer diagnostics).HasShape rules v := by
  rcases hratio with hone | ⟨hlow, hhigh⟩
  · have hnot : ¬ a.ratio < 1 := by
      rw [hone]
      decide
    refine ⟨.correct, if_neg hnot, a, rfl, hone, ?_, rfl⟩
    rw [Problem.creditMark, hone]
  · exact ⟨.partialCredit, if_pos hhigh, a, rfl, hlow, hhigh, rfl, rfl⟩

end Mark.HasShape

/-! ### Consistent problems -/

/-- Whether what a problem gets agrees with its key line and with itself. -/
structure ProblemMark.Consistent (rules : Rules) (line : NumberedLine) (problem : ProblemMark) :
    Prop where
  /-- It has exactly one shape. -/
  shape : ∃! v, problem.mark.HasShape rules v
  /-- It is worth the points of a problem. -/
  maxPoints_eq : problem.mark.maxPoints = rules.pointValue
  /-- What is matched is an alternative of the key line. -/
  matched : ∀ a, problem.mark.matched = some a →
    ∃ p, Problem.ofKeyLine line = .ok p ∧ a ∈ p.alternatives
  /-- The solution is that of the key line, if it can be read. -/
  solution_eq : problem.mark.solution = (Problem.ofKeyLine line).toOption.bind Problem.solution?
  /-- Without an answer it counts as incorrect, and there is nothing to tell of an answer. -/
  unanswered : problem.answered = false →
    problem.mark.verdict = .incorrect ∧ problem.mark.answer = [] ∧ problem.mark.diagnostics = []

/-- An answer that is compared with the alternatives of the key line. -/
lemma consistent_mark (hp : Problem.ofKeyLine line = .ok p) (number raw : Text) :
    ProblemMark.Consistent rules line ⟨number, true, p.mark rules raw⟩ := by
  have hsolution : p.solution? = (Problem.ofKeyLine line).toOption.bind Problem.solution? := by
    rw [hp]
    rfl
  cases hmatched : (p.mark rules raw).matched with
  | none =>
      rw [Problem.mark_eq_incorrectMark hmatched]
      refine ⟨(Mark.HasShape.incorrectMark _ _ _ _).existsUnique, rfl, ?_, hsolution, ?_⟩
      · rintro _ ⟨⟩
      · rintro ⟨⟩
  | some a =>
      have hmem := Problem.mem_of_matched hmatched
      obtain ⟨v, hshape⟩ := Mark.HasShape.creditMark rules (ratio_eq_one_or_between hp hmem) p
        (normalize rules raw).text (p.mark rules raw).diagnostics
      rw [Problem.mark_eq_creditMark hmatched]
      refine ⟨hshape.existsUnique, rfl, ?_, hsolution, ?_⟩
      · rintro _ ⟨⟩
        exact ⟨p, hp, hmem⟩
      · rintro ⟨⟩

/-- A problem without an answer, whether its key line can be read or not. -/
lemma consistent_unansweredLine (rules : Rules) (line : NumberedLine) :
    (unansweredLine rules line).Consistent rules line := by
  have hshape : (unansweredLine rules line).mark.HasShape rules .incorrect := by
    refine ⟨rfl, rfl, rfl, ?_⟩
    rw [unansweredLine]
    cases (Problem.ofKeyLine line).toOption.bind Problem.solution? <;> rfl
  refine ⟨hshape.existsUnique, rfl, ?_, rfl, fun _ => ⟨rfl, rfl, rfl⟩⟩
  rintro _ ⟨⟩

/-- The mark of a key line, with or without an answer. -/
lemma consistent_expectedMark (rules : Rules) (answer? : Option NumberedLine)
    (line : NumberedLine) : (expectedMark rules answer? line).Consistent rules line := by
  rw [expectedMark.eq_def]
  split
  case h_1 answer p _ hp => exact consistent_mark hp answer.number answer.text
  case h_2 => exact consistent_unansweredLine rules line

/-! ### Reports -/

/-- Each mark has one of the three verdicts. -/
lemma count_add_count_add_count (report : Report) :
    report.count .correct + report.count .partialCredit + report.count .incorrect
      = report.problems.length := by
  simp only [Report.count]
  induction report.problems with
  | nil => rfl
  | cons problem problems ih =>
      rw [List.length_cons, ← ih]
      simp only [List.countP_cons]
      cases problem.mark.verdict <;> simp <;> omega

/-- **Graded problems are consistent**: in a report, what each problem of the key gets agrees with
its key line and with itself, and there are as many verdicts as key lines. -/
theorem grade_consistent (h : s.grade rules key = .ok report) :
    List.Forall₂ (ProblemMark.Consistent rules) key report.problems
      ∧ report.count .correct + report.count .partialCredit + report.count .incorrect
        = key.length := by
  obtain ⟨problems, hmarks, rfl⟩ := Submission.exists_marks_of_grade h
  have hproblems : (Report.ofMarks s.student problems).problems = key.mapIdx fun i line =>
      expectedMark rules (numberedLines s.text)[i]? line := eq_of_marks hmarks
  rw [count_add_count_add_count, hproblems, List.length_mapIdx, List.forall₂_iff_get]
  refine ⟨⟨List.length_mapIdx.symm, fun i h₁ h₂ => ?_⟩, rfl⟩
  rw [List.get_eq_getElem, List.get_eq_getElem, List.getElem_mapIdx]
  exact consistent_expectedMark rules _ _

/-- A correct answer, one with partial credit, one that matches nothing, a line without an answer,
and a key line that cannot be read and that no answer reaches. -/
theorem grade_consistent_all_shapes :
    let key := Key.ofText "1. 1/0 & a\n2. b; -0.5; half\n3. c; range 2\n4. d\n5. 9; 7".toList
    ∃ report, Submission.grade {} key ⟨[], "1. a\n2. b\n3. x\n4. ".toList⟩ = .ok report
      ∧ List.Forall₂ (ProblemMark.Consistent {}) key report.problems
      ∧ report.count .correct = 1 ∧ report.count .partialCredit = 1
      ∧ report.count .incorrect = 3 := by
  intro key
  have hcounts : (Submission.grade {} key ⟨[], "1. a\n2. b\n3. x\n4. ".toList⟩).toOption.map
      (fun report => (report.count .correct, report.count .partialCredit, report.count .incorrect))
        = some (1, 1, 3) := by
    decide +kernel
  obtain ⟨report, hreport, hcounts'⟩ := toOption_map_eq_some_iff.mp hcounts
  obtain ⟨hconsistent, -⟩ := grade_consistent hreport
  rw [Prod.mk.injEq, Prod.mk.injEq] at hcounts'
  exact ⟨report, hreport, hconsistent, hcounts'⟩

end Grading
