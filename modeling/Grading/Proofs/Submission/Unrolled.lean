/-
Grading against a key and against its unrolled form.

* `NumberedLine.SameReading`: two key lines with the same number that are read as the same problem,
  or cannot be read for the same reason;
* `marks_congr`, `lineEvents_congr`: nothing else of a key decides the marks and what is logged;
* `sameReading_compileNumbered`, `sameReading_compileKey`: unrolling a line with a number, or a key
  of such lines, changes none of it;
* `grade_compileKey`: a submission is graded alike against such a key and its unrolled form.
-/
import Grading.Proofs.Key.Rewriting
import Grading.Submission.Basic

namespace Grading

open Text (writtenLines blankLine)

variable {line line' : NumberedLine} {key key' : Key}

/-! ### What grading takes from a key -/

/-- Two key lines with the same number that are read as the same problem, or cannot be read for the
same reason. -/
structure NumberedLine.SameReading (line line' : NumberedLine) : Prop where
  number : line.number = line'.number
  problem : Problem.ofKeyLine line = Problem.ofKeyLine line'

namespace NumberedLine.SameReading

lemma leftOver_eq (h : line.SameReading line') (rules : Rules) :
    leftOver rules line = leftOver rules line' := by
  rw [leftOver, leftOver, h.problem, h.number]

lemma leftOverEvents_eq (h : line.SameReading line') :
    leftOverEvents line = leftOverEvents line' := by
  rw [leftOverEvents, leftOverEvents, h.problem]

lemma numberEvents_eq (h : line.SameReading line') (student : Text) (answer : NumberedLine) :
    numberEvents student answer line = numberEvents student answer line' := by
  rw [numberEvents, numberEvents, h.number]

end NumberedLine.SameReading

/-- Key lines that are read alike get the same marks. -/
lemma marks_congr (rules : Rules) (answers : List NumberedLine)
    (h : List.Forall₂ NumberedLine.SameReading key key') :
    marks rules answers key = marks rules answers key' := by
  induction h generalizing answers with
  | nil => rfl
  | @cons line line' key key' hline hkey ih =>
      cases answers with
      | nil =>
          have hrest := Except.ok.inj (ih [])
          rw [marks, marks, List.map_cons, List.map_cons, hline.leftOver_eq, hrest]
      | cons answer answers => rw [marks, marks, hline.problem, ih]

/-- While key lines that are read alike are graded against, the same is logged. -/
lemma lineEvents_congr (rules : Rules) (student : Text) (answers : List NumberedLine)
    (h : List.Forall₂ NumberedLine.SameReading key key') :
    lineEvents rules student answers key = lineEvents rules student answers key' := by
  induction h generalizing answers with
  | nil => rfl
  | @cons line line' key key' hline hkey ih =>
      cases answers with
      | nil =>
          have hrest := ih []
          rw [lineEvents, lineEvents] at hrest ⊢
          rw [List.flatMap_cons, List.flatMap_cons, hline.leftOverEvents_eq, hrest]
      | cons answer answers =>
          rw [lineEvents, lineEvents, hline.numberEvents_eq, hline.problem]
          cases Problem.ofKeyLine line' with
          | error e => rfl
          | ok p => simp only [ih]

/-! ### The unrolled key -/

/-- Unrolling a line with a number keeps the number and the problem. -/
lemma sameReading_compileNumbered {line : Text} (h : numbered? line ≠ none) (position : Nat) :
    (NumberedLine.at position (compileNumbered .asWritten line)).SameReading
      (NumberedLine.at position line) := by
  obtain ⟨⟨label, text⟩, hline⟩ := Option.ne_none_iff_exists'.mp h
  have hspec : Text.trim (' ' :: compileLine .asWritten text) = compileLine .asWritten text := by
    rw [Text.ignoresPadding_trim.front, (tight_compileLine text).trim_eq]
  have hunrolled : numbered? (compileNumbered .asWritten line)
      = some (label, compileLine .asWritten text) := by
    rw [compileNumbered_of_numbered? hline, numbered?_label_append (isLabel_of_numbered? hline),
      hspec]
  have hat : NumberedLine.at position line = ⟨label, text⟩ := by
    simp [NumberedLine.at, splitNumber, hline]
  have hat' : NumberedLine.at position (compileNumbered .asWritten line)
      = ⟨label, compileLine .asWritten text⟩ := by
    simp [NumberedLine.at, splitNumber, hunrolled]
  rw [hat, hat']
  refine ⟨rfl, ?_⟩
  rw [Problem.ofKeyLine, Problem.ofKeyLine, Problem.ofLine, Problem.ofLine,
    entries_compileLine Expander.keepsFree_asWritten]

/-- A key of numbered lines has as many lines when it is unrolled: none of them becomes blank. -/
lemma writtenLines_compileKey_of_numbered {s : Text}
    (h : ∀ line ∈ writtenLines s, numbered? line ≠ none) :
    writtenLines (compileKey .asWritten s)
      = (writtenLines s).map (compileNumbered .asWritten) := by
  rw [writtenLines_compileKey, List.filter_eq_self]
  intro l hl
  obtain ⟨line, hline, rfl⟩ := List.mem_map.mp hl
  have hwritten : blankLine (compileNumbered .asWritten line) ≠ true := by
    rw [Ne, blankLine_compileNumbered_iff, compileNumbered_eq_nil_iff]
    exact fun hnil => h line hline hnil.1
  simpa using hwritten

/-- The lines of a key of numbered lines are read alike before and after unrolling. -/
lemma sameReading_compileKey {s : Text} (h : ∀ line ∈ writtenLines s, numbered? line ≠ none) :
    List.Forall₂ NumberedLine.SameReading (Key.ofText (compileKey .asWritten s))
      (Key.ofText s) := by
  rw [List.forall₂_iff_get, Key.ofText, Key.ofText, numberedLines, numberedLines,
    writtenLines_compileKey_of_numbered h]
  refine ⟨by simp, fun i hi hi' => ?_⟩
  simp only [List.get_eq_getElem, List.getElem_mapIdx, List.getElem_map]
  exact sameReading_compileNumbered (h _ (List.getElem_mem _)) (i + 1)

/-- **Unrolling a key changes no grade**: against a key whose lines all have a number, a submission
gets the same report or the same error before and after unrolling, and the same is logged. -/
theorem grade_compileKey (rules : Rules) (s : Submission) (keyText : Text)
    (h : ∀ line ∈ writtenLines keyText, numbered? line ≠ none) :
    s.grade rules (Key.ofText (compileKey .asWritten keyText))
        = s.grade rules (Key.ofText keyText)
      ∧ s.events rules (Key.ofText (compileKey .asWritten keyText))
        = s.events rules (Key.ofText keyText) := by
  have hkey := sameReading_compileKey h
  constructor
  · rw [Submission.grade, Submission.grade, marks_congr rules _ hkey]
  · rw [Submission.events, Submission.events, lineEvents_congr rules _ _ hkey]

/-- A key with line ends of both kinds, a blank line, an empty specification, blanks around a
number, a decimal answer and an alternative that repeats. -/
theorem grade_compileKey_irregular :
    let keyText := "1. 17|17.0 & 17 ;; 0.5 &\r\n \n 2a . &\r\n3.1.5|1.5 & x ; range 2 ; 7".toList
    let s : Submission := ⟨"Ada".toList, "1. 17.0\n\n2a. \n3. x".toList⟩
    (∀ line ∈ writtenLines keyText, numbered? line ≠ none)
      ∧ s.grade {} (Key.ofText (compileKey .asWritten keyText)) = s.grade {} (Key.ofText keyText)
      ∧ s.events {} (Key.ofText (compileKey .asWritten keyText))
        = s.events {} (Key.ofText keyText) := by
  intro keyText s
  have h : ∀ line ∈ writtenLines keyText, numbered? line ≠ none := by decide
  exact ⟨h, grade_compileKey {} s keyText h⟩

end Grading
