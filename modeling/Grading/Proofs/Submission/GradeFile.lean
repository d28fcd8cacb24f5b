/-
A grade file can be read back: every problem has one line, under its number and with its verdict.

* `newline_notMem_text`, `newline_notMem_normalize`: an answer holds no line feed, and neither does
  its normal form;
* `mem_line_of_mem_value`, `mem_line_of_mem_feedback`: the values and the feedback of a problem are
  written in its key line;
* `ProblemMark.OneLine`, `oneLine_expectedMark`: so all that a grade file shows of a problem fits on
  one line, whether it has an answer or not;
* `ProblemMark.OneLine.opens`: this line is read with the number of the problem and its verdict;
* `gradeFile_read_back`: the file as a whole.
-/
import Grading.Proofs.Answer.Acceptance
import Grading.Proofs.Answer.Normal
import Grading.Proofs.Decimal.Written
import Grading.Proofs.Problem.Tags
import Grading.Proofs.Submission.Template
import Grading.Proofs.Text.Sigma

namespace Grading

open Text (writtenLines)

variable {rules : Rules} {line : NumberedLine} {p : Problem} {a : Alternative} {s text : Text}
  {c : Char}

/-! ### Answers -/

/-- The text of a line holds no line feed. -/
lemma newline_notMem_text (h : line ∈ numberedLines text) : '\n' ∉ line.text := by
  obtain ⟨i, hi, rfl⟩ := List.mem_mapIdx.mp h
  have hwritten : '\n' ∉ (writtenLines text)[i] :=
    Text.newline_notMem_of_mem_writtenLines (List.getElem_mem hi)
  rw [NumberedLine.at, splitNumber]
  cases hnumbered : numbered? (writtenLines text)[i] with
  | none => exact fun hmem => hwritten (Text.mem_of_mem_trim hmem)
  | some numbered => exact fun hmem => hwritten (mem_of_numbered? hnumbered (Or.inr hmem))

/-- Folding the case of a text adds no character from before the first capital. -/
lemma mem_of_mem_foldCase (hc : c.toNat < 0x41) (h : c ∈ foldCase rules s) : c ∈ s := by
  have hlower : c ∈ s.trim.lower := by
    rw [foldCase] at h
    split at h
    · exact h
    · exact List.mem_of_mem_filter h
  exact Text.mem_of_mem_trim (Text.mem_of_mem_lower hc hlower)

lemma newline_notMem_twoPlaces (x : Float) : '\n' ∉ twoPlaces x := by
  cases hnan : x.isNaN with
  | true =>
      rw [Decimal.twoPlaces_of_isNaN hnan]
      decide
  | false =>
      intro hmem
      have hkind := Decimal.mem_twoPlaces hnan hmem
      exact absurd hkind (by decide)

/-- A normal form holds no line feed that the text does not hold. -/
lemma newline_notMem_normalize (h : '\n' ∉ s) : '\n' ∉ (normalize rules s).text := by
  rcases normalize_cases rules s with hfold | ⟨x, y, -, -, -, hquotient⟩
  · rw [hfold]
    exact fun hmem => h (mem_of_mem_foldCase (by decide) hmem)
  · rw [hquotient]
    exact newline_notMem_twoPlaces (x / y)

/-! ### Key lines -/

/-- An alternative is read from one that is written in the key line. -/
lemma exists_mem_entries (hp : Problem.ofKeyLine line = .ok p) (ha : a ∈ p.alternatives) :
    ∃ e ∈ entries .asWritten line.text, Alternative.ofEntry line.number e = .ok a := by
  have hread := (ofLine_eq_ok_iff.mp hp).2
  exact List.mem_map.mp (hread ▸ List.mem_map_of_mem ha)

lemma mem_line_of_mem_value (hp : Problem.ofKeyLine line = .ok p) (ha : a ∈ p.alternatives)
    (hc : c ∈ a.value) : c ∈ line.text := by
  obtain ⟨e, he, hread⟩ := exists_mem_entries hp ha
  obtain ⟨tags, -, rfl⟩ := ofEntry_eq_ok_iff.mp hread
  exact mem_line_of_mem_entries he (Or.inl hc)

/-- Feedback is written in the key line, but for what stands between its parts. -/
lemma mem_line_of_mem_feedback (hp : Problem.ofKeyLine line = .ok p) (ha : a ∈ p.alternatives)
    (hc : c ∈ a.feedback) : c ∈ "; ".toList ∨ c ∈ line.text := by
  obtain ⟨e, he, hread⟩ := exists_mem_entries hp ha
  obtain ⟨tags, htags, rfl⟩ := ofEntry_eq_ok_iff.mp hread
  refine (Text.mem_join hc).imp_right fun ⟨part, hpart, hmem⟩ => ?_
  obtain ⟨tag, htag, hfeedback⟩ := List.mem_filterMap.mp hpart
  obtain ⟨written, hwritten, htold⟩ :=
    exists_mem_of_mapM_eq_ok (mapM_eq_ok_iff_forall₂.mpr htags) htag
  rw [feedback?_of_classified (Tag.ofText_eq_ok_iff.mp htold)] at hfeedback
  split at hfeedback
  · obtain rfl := Option.some.inj hfeedback
    exact mem_line_of_mem_entries he (Or.inr ⟨written, hwritten, hmem⟩)
  · cases hfeedback

/-- The solution of a problem is one of its values. -/
lemma mem_line_of_mem_solution (hp : Problem.ofKeyLine line = .ok p) (hs : p.solution? = some s)
    (hc : c ∈ s) : c ∈ line.text := by
  obtain ⟨a, ha, rfl⟩ := Option.map_eq_some_iff.mp hs
  exact mem_line_of_mem_value hp (List.mem_of_find?_eq_some ha) hc

/-! ### Problems on one line -/

/-- Whether what a grade file shows of a problem fits on a numbered line. -/
structure ProblemMark.OneLine (problem : ProblemMark) : Prop where
  label : isLabel problem.number = true
  answer : '\n' ∉ problem.mark.answer
  solution : ∀ s ∈ problem.mark.solution, '\n' ∉ s
  feedback : '\n' ∉ problem.mark.feedback

lemma newline_notMem_solutionFeedback {solution : Option Text} (h : ∀ s ∈ solution, '\n' ∉ s) :
    '\n' ∉ solutionFeedback solution := by
  cases solution with
  | none => exact List.not_mem_nil
  | some s =>
      change '\n' ∉ "Solution: ".toList ++ s
      simp [h s (Option.mem_some_self s)]

/-- An answer that is compared with the alternatives of a key line. -/
lemma oneLine_mark (hp : Problem.ofKeyLine line = .ok p) (hline : '\n' ∉ line.text)
    {number raw : Text} (hnumber : isLabel number = true) (hraw : '\n' ∉ raw) :
    ProblemMark.OneLine ⟨number, true, p.mark rules raw⟩ := by
  have hanswer : '\n' ∉ (normalize rules raw).text := newline_notMem_normalize hraw
  have hsolution : ∀ s ∈ p.solution?, '\n' ∉ s :=
    fun s hs hmem => hline (mem_line_of_mem_solution hp hs hmem)
  cases hmatched : (p.mark rules raw).matched with
  | none =>
      rw [Problem.mark_eq_incorrectMark hmatched]
      exact ⟨hnumber, hanswer, hsolution, newline_notMem_solutionFeedback hsolution⟩
  | some a =>
      rw [Problem.mark_eq_creditMark hmatched]
      refine ⟨hnumber, hanswer, hsolution, fun hmem => ?_⟩
      rcases mem_line_of_mem_feedback hp (Problem.mem_of_matched hmatched) hmem with hmem | hmem
      · exact absurd hmem (by decide)
      · exact hline hmem

/-- A problem without an answer, whether its key line can be read or not. -/
lemma oneLine_unansweredLine (rules : Rules) (hlabel : isLabel line.number = true)
    (hline : '\n' ∉ line.text) : (unansweredLine rules line).OneLine := by
  have hsolution : ∀ s ∈ (Problem.ofKeyLine line).toOption.bind Problem.solution?, '\n' ∉ s := by
    cases hp : Problem.ofKeyLine line with
    | error e => rintro s ⟨⟩
    | ok p => exact fun s hs hmem => hline (mem_line_of_mem_solution hp hs hmem)
  exact ⟨hlabel, List.not_mem_nil, hsolution, newline_notMem_solutionFeedback hsolution⟩

/-- What a key line gives, with or without an answer. -/
lemma oneLine_expectedMark {answer? : Option NumberedLine}
    (hanswer : ∀ answer ∈ answer?, isLabel answer.number = true ∧ '\n' ∉ answer.text)
    (hlabel : isLabel line.number = true) (hline : '\n' ∉ line.text) :
    (expectedMark rules answer? line).OneLine := by
  rw [expectedMark.eq_def]
  split
  case h_1 answer p hfilter hp =>
    obtain ⟨hnumber, hraw⟩ := hanswer answer (Option.filter_eq_some_iff.mp hfilter).1
    exact oneLine_mark hp hline hnumber hraw
  case h_2 => exact oneLine_unansweredLine rules hlabel hline

/-! ### Lines of a grade file -/

lemma newline_notMem_points (x : Float) : '\n' ∉ points x := fun hmem =>
  absurd (List.all_eq_true.mp (Decimal.all_isNumberChar_points x) _ hmem) (by decide)

/-- What the text of a problem's line is, or how it begins. -/
def Verdict.Opens (text : Text) : Verdict → Prop
  | .correct => text = "Correct".toList
  | .partialCredit => "XXX Partial Credit: ".toList <+: text
  | .incorrect => "XXX Incorrect: 0/".toList <+: text

/-- What is numbered and begins with a tight text is read with its number, and begins with it. -/
lemma exists_splitNumber_eq {label head : Text} (hlabel : isLabel label = true)
    (hhead : head.Tight) (hne : head ≠ []) (rest : Text) :
    ∃ text, splitNumber (label ++ '.' :: ' ' :: (head ++ rest)) = (some label, text)
      ∧ head <+: text := by
  refine ⟨head ++ Text.trimEnd rest, ?_, List.prefix_append _ _⟩
  rw [splitNumber, numbered?_label_append hlabel, Text.ignoresPadding_trim.front,
    Text.trim_append_of_tight hhead hne]

namespace ProblemMark.OneLine

variable {problem : ProblemMark}

/-- The line of a problem is one line. -/
lemma newline_notMem (h : problem.OneLine) : '\n' ∉ problem.text := by
  have hlabel : '\n' ∉ problem.number := fun hmem =>
    absurd ((isLabel_iff.mp h.label).2 _ hmem) (by decide)
  have hsolution : '\n' ∉ problem.mark.solution.getD [] := by
    cases hs : problem.mark.solution with
    | none => exact List.not_mem_nil
    | some s => exact h.solution s hs
  rw [ProblemMark.text]
  split <;> simp [hlabel, h.answer, hsolution, h.feedback, newline_notMem_points]

/-- The line of a problem is read with its number and its verdict. -/
lemma opens (h : problem.OneLine) :
    ∃ text, splitNumber problem.text = (some problem.number, text)
      ∧ problem.mark.verdict.Opens text := by
  rw [ProblemMark.text]
  cases problem.mark.verdict with
  | correct =>
      have htight : Text.Tight "Correct".toList := by
        constructor <;> simp <;> decide
      have hread : splitNumber (problem.number ++ '.' :: ' ' :: "Correct".toList)
          = (some problem.number, "Correct".toList) := by
        rw [splitNumber, numbered?_label_append h.label, Text.ignoresPadding_trim.front,
          htight.trim_eq]
      exact ⟨_, hread, rfl⟩
  | partialCredit =>
      -- the words that it begins with end with a blank, and are tight only up to the slash
      have hcross : Text.Tight ['X'] := by constructor <;> simp <;> decide
      have hslash : Text.Tight ['/'] := by constructor <;> simp <;> decide
      have htight := Text.tight_append_append hcross hslash (by simp) (by simp)
        (m := "XX Partial Credit: ".toList ++ points problem.mark.points)
      obtain ⟨text, hread, hprefix⟩ := exists_splitNumber_eq h.label htight (by simp)
        (points problem.mark.maxPoints ++ ". Student answer: ".toList
          ++ problem.mark.answer ++ ", Solution: ".toList ++ problem.mark.solution.getD []
          ++ ". ".toList ++ problem.mark.feedback)
      refine ⟨text, ?_, List.IsPrefix.trans ⟨points problem.mark.points ++ ['/'], ?_⟩ hprefix⟩
      · simpa using hread
      · simp
  | incorrect =>
      have htight : Text.Tight "XXX Incorrect: 0/".toList := by
        constructor <;> simp <;> decide
      obtain ⟨text, hread, hprefix⟩ := exists_splitNumber_eq h.label htight (by simp)
        (points problem.mark.maxPoints ++ ". Student answer: ".toList
          ++ problem.mark.answer ++ ", Solution: ".toList ++ problem.mark.solution.getD [])
      refine ⟨text, ?_, hprefix⟩
      simpa using hread

end ProblemMark.OneLine

/-! ### Grade files -/

/-- All that a report shows of a problem fits on a line. -/
lemma oneLine_of_grade {keyText : Text} {submission : Submission} {report : Report}
    (h : submission.grade rules (Key.ofText keyText) = .ok report) :
    ∀ problem ∈ report.problems, problem.OneLine := by
  obtain ⟨problems, hmarks, rfl⟩ := Submission.exists_marks_of_grade h
  intro problem hproblem
  obtain ⟨line, hline, answer?, hanswer, rfl⟩ := exists_expectedMark_of_mem hmarks hproblem
  refine oneLine_expectedMark (fun answer h => ?_) (isLabel_number_of_mem hline)
    (newline_notMem_text hline)
  have hmem := hanswer answer h
  exact ⟨isLabel_number_of_mem hmem, newline_notMem_text hmem⟩

/-- The parts of a grade file between the line feeds. -/
lemma pieces_report_text {report : Report} (hstudent : '\n' ∉ report.student)
    (h : ∀ problem ∈ report.problems, problem.OneLine) :
    report.text.pieces '\n' = (report.student ++ [':']) :: report.problems.map ProblemMark.text
      ++ [[], "Score: ".toList ++ report.score] := by
  have htext : report.text = (report.student ++ [':']) ++ '\n' ::
      ((report.problems.map ProblemMark.text).flatMap (fun line => line ++ ['\n'])
        ++ '\n' :: ("Score: ".toList ++ report.score)) := by
    rw [List.flatMap_map]
    simp [Report.text]
  have hlines : ∀ line ∈ report.problems.map ProblemMark.text, '\n' ∉ line :=
    List.forall_mem_map.mpr fun problem hproblem => (h problem hproblem).newline_notMem
  have hscore : '\n' ∉ "Score: ".toList ++ report.score := by
    simp [Report.score, newline_notMem_points]
  rw [htext, Text.pieces_append_cons, Text.pieces_flatMap_append hlines, Text.pieces_cons_self,
    Text.pieces_eq_singleton hscore, Text.pieces_eq_singleton (by simp [hstudent])]
  rfl

/-- **A grade file can be read back**: between its line feeds stand the student's name, a line for
each problem, nothing, and the score, and the line of a problem is read with its number and its
verdict. -/
theorem gradeFile_read_back {keyText student answers : Text} {report : Report}
    (hstudent : '\n' ∉ student)
    (h : Submission.grade rules (Key.ofText keyText) ⟨student, answers⟩ = .ok report) :
    (report.text.pieces '\n').length = 3 + report.problems.length
      ∧ ∃ lines score, report.text.pieces '\n'
          = (student ++ [':']) :: lines ++ [[], "Score: ".toList ++ score]
        ∧ List.Forall₂ (fun problem line => ∃ text,
            splitNumber line = (some problem.number, text) ∧ problem.mark.verdict.Opens text)
          report.problems lines := by
  have hone := oneLine_of_grade h
  obtain ⟨problems, -, rfl⟩ := Submission.exists_marks_of_grade h
  have hpieces : (Report.ofMarks student problems).text.pieces '\n' = _ :=
    pieces_report_text hstudent hone
  refine ⟨?_, _, _, hpieces, List.forall₂_map_right_iff.mpr (List.forall₂_same.mpr ?_)⟩
  · rw [hpieces]
    simp
    omega
  · exact fun problem hproblem => (hone problem hproblem).opens

/-- All three verdicts, an answer under another number than its key line, one without a number, and
a key line that cannot be read and that no answer reaches. -/
theorem gradeFile_read_back_all_verdicts :
    let key := Key.ofText "1. 1/0 & a\n2. b ; -0.5; half; right\n7\n4. c; range\n".toList
    ∃ report, Submission.grade {} key ⟨"Ada".toList, "1. A \n 3a .B\r\nx y. z".toList⟩ = .ok report
      ∧ report.text = ("Ada:\n1. Correct\n"
        ++ "3a. XXX Partial Credit: -0.5/1.0. Student answer: b, Solution: . half; right\n"
        ++ "3. XXX Incorrect: 0/1.0. Student answer: xy.z, Solution: 7\n"
        ++ "4. XXX Incorrect: 0/1.0. Student answer: , Solution: \n\nScore: 0.5 / 4.0").toList
      ∧ (report.text.pieces '\n').length = 3 + report.problems.length := by
  intro key
  have htext : (Submission.grade {} key
      ⟨"Ada".toList, "1. A \n 3a .B\r\nx y. z".toList⟩).toOption.map Report.text
        = some ("Ada:\n1. Correct\n".toList
          ++ "3a. XXX Partial Credit: -0.5/1.0. Student answer: b, Solution: . half; right\n".toList
          ++ "3. XXX Incorrect: 0/1.0. Student answer: xy.z, Solution: 7\n".toList
          ++ "4. XXX Incorrect: 0/1.0. Student answer: , Solution: \n\nScore: 0.5 / 4.0".toList) :=
    by decide +kernel
  obtain ⟨report, hreport, htext'⟩ := toOption_map_eq_some_iff.mp htext
  simp only [← String.toList_append] at htext'
  exact ⟨report, hreport, htext', (gradeFile_read_back (by decide) hreport).1⟩

end Grading
