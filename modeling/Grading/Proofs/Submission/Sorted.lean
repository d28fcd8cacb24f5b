/-
A key and a submission that are sorted together.

* `map_text_numberedLines_sortLines`: the texts of the sorted lines are those of the lines;
* `ProblemMark.outcome`, `textOutcome`: what a problem gets, which the texts of the two lines decide
  and not their numbers;
* `map_outcome_of_marks`, `isOk_marks`: all that, where no answers and no key lines are left over;
* `grade_sortLines`: lines that have the same problem numbers in both are paired after sorting as
  they were before.
-/
import Grading.Proofs.Numbering.Order
import Grading.Proofs.Submission.Template

namespace Grading

open Text (writtenLines)

variable {rules : Rules} {answers : List NumberedLine} {key : Key} {problems : List ProblemMark}

/-! ### The texts of sorted lines -/

/-- The text of a line, without its number. -/
def lineText (line : Text) : Text := (splitNumber line).2

lemma lineText_trim (line : Text) : lineText line.trim = lineText line := by
  simp [lineText, splitNumber, numbered?]

lemma map_text_numberedLines (s : Text) :
    (numberedLines s).map NumberedLine.text = (writtenLines s).map lineText := by
  rw [numberedLines]
  exact List.ext_getElem (by simp) fun i h₁ h₂ => by simp [NumberedLine.at, lineText]

/-- Sorted lines are read back, blanks at their ends aside. -/
lemma map_text_numberedLines_sortLines (s : Text) :
    (numberedLines (sortLines s)).map NumberedLine.text = (sortedLines s).map lineText := by
  have hmem : ∀ l ∈ sortedLines s, l ∈ writtenLines s := fun l hl => List.mem_mergeSort.mp hl
  have hread : (writtenLines (sortLines s)).map Text.trim = (sortedLines s).map Text.trim := by
    rw [← filter_map_trim_lines, sortLines, Text.map_trim_lines_flatMap fun l hl =>
      Text.newline_notMem_of_mem_writtenLines (hmem l hl), List.filter_eq_self]
    intro t ht
    obtain ⟨l, hl, rfl⟩ := List.mem_map.mp ht
    have hwritten := (List.mem_filter.mp (hmem l hl)).2
    rw [Bool.not_eq_true', ← Bool.not_eq_true, Text.blankLine_iff] at hwritten
    simpa using hwritten
  have htrim : ∀ ls : List Text, ls.map lineText = (ls.map Text.trim).map lineText := by
    intro ls
    rw [List.map_map]
    exact List.map_congr_left fun l _ => (lineText_trim l).symm
  rw [map_text_numberedLines, htrim, hread, ← htrim]

/-! ### What the texts of two lines decide -/

/-- What a problem gets, whatever its number. -/
def ProblemMark.outcome (problem : ProblemMark) : Bool × Mark := (problem.answered, problem.mark)

/-- What an answer gets for a key line, by the texts of both. -/
def textOutcome (rules : Rules) (answer line : Text) : Bool × Mark :=
  (expectedMark rules (some ⟨[], answer⟩) ⟨[], line⟩).outcome

lemma outcome_unansweredLine (rules : Rules) (line : NumberedLine) :
    (unansweredLine rules line).outcome = (unansweredLine rules ⟨[], line.text⟩).outcome := by
  have hsolution : (Problem.ofKeyLine line).toOption.bind Problem.solution?
      = (Problem.ofKeyLine ⟨[], line.text⟩).toOption.bind Problem.solution? := by
    rw [toOption_ofKeyLine, toOption_ofKeyLine]
    cases alternatives? line.text <;> rfl
  rw [unansweredLine, unansweredLine, hsolution]
  rfl

/-- The numbers of a line and of its answer do not matter to what the problem gets. -/
lemma outcome_expectedMark (rules : Rules) (answer line : NumberedLine) :
    (expectedMark rules (some answer) line).outcome = textOutcome rules answer.text line.text := by
  have hunanswered := outcome_unansweredLine rules line
  rw [textOutcome, expectedMark, expectedMark]
  cases htext : answer.text.isEmpty with
  | true =>
      rw [Option.filter_some_neg (by simp [htext]), Option.filter_some_neg (by simp [htext])]
      exact hunanswered
  | false =>
      rw [Option.filter_some_pos (by simp [htext]), Option.filter_some_pos (by simp [htext])]
      cases hread : alternatives? line.text with
      | some alternatives =>
          rw [ofKeyLine_of_alternatives? line hread,
            ofKeyLine_of_alternatives? ⟨[], line.text⟩ hread]
          rfl
      | none =>
          obtain ⟨e, he⟩ := exists_error_of_alternatives? line hread
          obtain ⟨e', he'⟩ := exists_error_of_alternatives? ⟨[], line.text⟩ hread
          rw [he, he']
          exact hunanswered

/-- If no answers and no key lines are left over, the texts of the lines at the same places decide
what the problems get. -/
lemma map_outcome_of_marks (hlength : answers.length = key.length)
    (h : marks rules answers key = .ok problems) :
    problems.map ProblemMark.outcome
      = List.zipWith (textOutcome rules) (answers.map NumberedLine.text)
          (key.map NumberedLine.text) := by
  obtain rfl := eq_of_marks h
  refine List.ext_getElem (by simp [hlength]) fun i h₁ h₂ => ?_
  have hi : i < answers.length := by simpa [hlength] using h₁
  simp [outcome_expectedMark, hi]

/-- Then the grading succeeds exactly if all key lines can be read. -/
lemma isOk_marks (rules : Rules) (hlength : answers.length = key.length) :
    (marks rules answers key).isOk
      = (key.map NumberedLine.text).all fun text => (alternatives? text).isSome := by
  have hread : key.findSome? NumberedLine.fault? = none
      ↔ (key.map NumberedLine.text).all (fun text => (alternatives? text).isSome) = true := by
    rw [List.findSome?_eq_none_iff, List.all_eq_true, List.forall_mem_map]
    exact forall₂_congr fun line _ => fault?_eq_none_iff_isSome
  rw [marks_eq_lockstep, lockstep, hlength, List.take_length, List.getElem?_eq_none hlength.le]
  cases hfault : key.findSome? NumberedLine.fault? with
  | none =>
      rw [hread.mp hfault]
      rfl
  | some fault =>
      rw [hfault] at hread
      exact (Bool.eq_false_iff.mpr fun hall => Option.some_ne_none fault (hread.mpr hall)).symm

/-! ### Sorted files -/

lemma length_numberedLines_sortLines (s : Text) :
    (numberedLines (sortLines s)).length = (writtenLines s).length := by
  have hlength := congrArg List.length (map_text_numberedLines_sortLines s)
  rwa [List.length_map, List.length_map, sortedLines, List.length_mergeSort] at hlength

/-- Sorting a key keeps whether it can be read. -/
lemma all_numberedLines_sortLines (s : Text) (f : Text → Bool) :
    ((numberedLines (sortLines s)).map NumberedLine.text).all f
      = ((numberedLines s).map NumberedLine.text).all f := by
  rw [map_text_numberedLines_sortLines, map_text_numberedLines]
  exact ((List.mergeSort_perm _ _).map lineText).all_eq

/-- The texts of a file are those of the sorted file in the same order as its lines. -/
lemma Arranged.map_text {order : List ℕ} {s : Text}
    (h : Arranged order (writtenLines s) (sortedLines s)) :
    Arranged order ((numberedLines s).map NumberedLine.text)
      ((numberedLines (sortLines s)).map NumberedLine.text) := by
  rw [map_text_numberedLines_sortLines, map_text_numberedLines]
  exact h.map lineText

namespace Submission

lemma isOk_grade (rules : Rules) (key : Key) (s : Submission) :
    (s.grade rules key).isOk = (marks rules (numberedLines s.text) key).isOk := by
  rw [grade]
  cases marks rules (numberedLines s.text) key <;> rfl

/-- What the problems of a report get is decided by the texts of the lines at the same places. -/
lemma map_outcome_of_grade {s : Submission} {report : Report}
    (hlength : (numberedLines s.text).length = key.length) (h : s.grade rules key = .ok report) :
    report.problems.map ProblemMark.outcome
      = List.zipWith (textOutcome rules) ((numberedLines s.text).map NumberedLine.text)
          (key.map NumberedLine.text) := by
  obtain ⟨problems, hmarks, rfl⟩ := exists_marks_of_grade h
  exact map_outcome_of_marks hlength hmarks

end Submission

/-- **A key and a submission sorted together**: if their lines have the same problem numbers at the
same places, then the sorted submission can be graded against the sorted key exactly if the
submission can against the key. The lines of both, and with them what the problems get, move to the
same places: the numbers are in order there, and lines of the same number, or without one, have
stayed in their order. -/
theorem grade_sortLines (rules : Rules) (student answers keyText : Text)
    (h : (writtenLines answers).map ProblemNumber.ofLine?
      = (writtenLines keyText).map ProblemNumber.ofLine?) :
    let original := Submission.grade rules (Key.ofText keyText) ⟨student, answers⟩
    let sorted := Submission.grade rules (Key.ofText (sortLines keyText))
      ⟨student, sortLines answers⟩
    sorted.isOk = original.isOk
      ∧ ∃ order,
        (∀ order', StablySorts ((writtenLines keyText).map ProblemNumber.ofLine?) order'
          ↔ order' = order)
        ∧ Arranged order (writtenLines keyText) (sortedLines keyText)
        ∧ Arranged order (writtenLines answers) (sortedLines answers)
        ∧ ∀ report report', original = .ok report → sorted = .ok report' →
            Arranged order (report.problems.map ProblemMark.outcome)
              (report'.problems.map ProblemMark.outcome) := by
  intro original sorted
  have hlines : (writtenLines answers).length = (writtenLines keyText).length := by
    simpa using congrArg List.length h
  have hlength : (numberedLines answers).length = (Key.ofText keyText).length := by
    rw [Key.ofText, length_numberedLines, length_numberedLines, hlines]
  have hlength' : (numberedLines (sortLines answers)).length
      = (Key.ofText (sortLines keyText)).length := by
    rw [Key.ofText, length_numberedLines_sortLines, length_numberedLines_sortLines, hlines]
  obtain ⟨order, hsorts, hkey⟩ := exists_arranged_sortedLines keyText
  obtain ⟨order', hsorts', hanswers⟩ := exists_arranged_sortedLines answers
  -- the same numbers have the same order
  obtain rfl : order' = order := StablySorts.unique (h ▸ hsorts') hsorts
  refine ⟨?_, order', fun o => ⟨fun ho => ho.unique hsorts, fun ho => ho ▸ hsorts⟩, hkey, hanswers,
    fun report report' hreport hreport' => ?_⟩
  · -- a fault stops grading wherever its line stands
    rw [Submission.isOk_grade, Submission.isOk_grade, isOk_marks rules hlength,
      isOk_marks rules hlength']
    exact all_numberedLines_sortLines keyText _
  · -- the outcome of a pair of lines depends on their texts alone
    rw [Submission.map_outcome_of_grade hlength hreport,
      Submission.map_outcome_of_grade hlength' hreport']
    exact hanswers.map_text.zipWith hkey.map_text (textOutcome rules)

/-- Two lines for the same part, one of them without an answer, a line without a number, blank lines
and line ends of both kinds. -/
theorem grade_sortLines_ties :
    let keyText := "10. a\r\n\nb\n2b. c\n2. d ; 0.5\n2B. e".toList
    let answers := "10. x\n  b \n\n2b. c\r\n2. d\n2b.\n".toList
    sortLines keyText = "2. d ; 0.5\n2b. c\n2B. e\n10. a\nb\n".toList
      ∧ ∃ report report', Submission.grade {} (Key.ofText keyText) ⟨[], answers⟩ = .ok report
        ∧ Submission.grade {} (Key.ofText (sortLines keyText)) ⟨[], sortLines answers⟩
          = .ok report'
        ∧ Arranged [3, 2, 4, 0, 1] (report.problems.map ProblemMark.outcome)
            (report'.problems.map ProblemMark.outcome) := by
  intro keyText answers
  have h : (writtenLines answers).map ProblemNumber.ofLine?
      = (writtenLines keyText).map ProblemNumber.ofLine? := by
    decide +kernel
  obtain ⟨hok, order, hsorts, hkey, -, hreports⟩ := grade_sortLines {} [] answers keyText h
  obtain rfl : [3, 2, 4, 0, 1] = order :=
    (hsorts _).mp ⟨by decide +kernel, by decide +kernel⟩
  have hread : (Submission.grade {} (Key.ofText keyText) ⟨[], answers⟩).isOk = true := by
    decide +kernel
  rw [hread] at hok
  -- the order tells which line stands where
  have hlines : sortedLines keyText = ["2. d ; 0.5".toList, "2b. c".toList, "2B. e".toList,
      "10. a".toList, "b".toList] :=
    List.map_injective_iff.mpr (Option.some_injective Text) (hkey.trans (by decide +kernel))
  refine ⟨by rw [sortLines, hlines]; decide, ?_⟩
  cases horiginal : Submission.grade {} (Key.ofText keyText) ⟨[], answers⟩ with
  | error e => rw [horiginal] at hread; cases hread
  | ok report =>
      cases hsorted : Submission.grade {} (Key.ofText (sortLines keyText))
          ⟨[], sortLines answers⟩ with
      | error e => rw [hsorted] at hok; cases hok
      | ok report' => exact ⟨report, report', rfl, rfl, hreports report report' horiginal hsorted⟩

end Grading
