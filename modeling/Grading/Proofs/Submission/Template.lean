/-
Response files made from a key, blank and filled in.

* `isLabel_number_of_mem`: the lines of a text are numbered by labels, those without a number too;
* `FilledText`, `FilledText.numberedLines_eq`: lines that are filled in under labels, with a line
  feed after each or between them, are read with their labels and trimmed;
* `filledText_responseTemplate`: the blank response file consists of such lines;
* `grade_of_numbers`: answers that are numbered as the key is never run out of it, and no number is
  told of;
* `marks_blank`: answers without text count as none;
* `responseTemplate_fits`: all this for the response file of a key.
-/
import Grading.Proofs.Decimal.Whole
import Grading.Proofs.Key.Numbered
import Grading.Proofs.Submission.Lockstep
import Grading.Proofs.Text.Lines

namespace Grading

open Text (writtenLines blankLine)

variable {rules : Rules} {key : Key} {s : Submission} {text : Text}

/-! ### The numbers of lines -/

/-- The position of a line can number it. -/
lemma isLabel_digits (n : Nat) : isLabel (Decimal.digits n) = true := by
  refine isLabel_iff.mpr ⟨Decimal.digits_ne_nil n, fun c hc => ?_⟩
  have hdigit : c.isDigit = true := Decimal.isDigit_of_mem_digits hc
  rw [Char.isAlphanum, hdigit, Bool.or_true]

lemma isLabel_number_at (position : Nat) (line : Text) :
    isLabel (NumberedLine.at position line).number = true := by
  rw [NumberedLine.at, splitNumber]
  cases h : numbered? line with
  | none => exact isLabel_digits position
  | some p => exact isLabel_of_numbered? h

/-- The lines of a text are numbered by labels. -/
lemma isLabel_number_of_mem {line : NumberedLine} (h : line ∈ numberedLines text) :
    isLabel line.number = true := by
  obtain ⟨i, hi, rfl⟩ := List.mem_mapIdx.mp h
  exact isLabel_number_at _ _

/-! ### Lines with labels -/

/-- Blanks at the ends of a line do not matter to its number and its text. -/
lemma NumberedLine.at_trim (position : Nat) (line : Text) :
    NumberedLine.at position line.trim = NumberedLine.at position line := by
  simp [NumberedLine.at, splitNumber, numbered?]

lemma NumberedLine.at_label_append {label : Text} (h : isLabel label = true) (position : Nat)
    (answer : Text) :
    NumberedLine.at position (label ++ '.' :: answer) = ⟨label, answer.trim⟩ := by
  simp [NumberedLine.at, splitNumber, numbered?_label_append h]

/-- Without the blanks at their ends, the lines that are not blank are those that are not empty. -/
lemma filter_map_trim_lines (text : Text) :
    ((Text.lines text).map Text.trim).filter (fun l => !l.isEmpty)
      = (writtenLines text).map Text.trim := by
  rw [writtenLines, List.filter_map]
  refine congrArg _ (List.filter_congr fun l _ => ?_)
  have hblank := Text.blankLine_iff (s := l)
  cases h : blankLine l <;> simp_all

/-- The numbered lines of a text are those of its lines without the blanks at their ends. -/
lemma numberedLines_eq_trimmed (text : Text) :
    numberedLines text = (((Text.lines text).map Text.trim).filter fun l => !l.isEmpty).mapIdx
      fun i line => NumberedLine.at (i + 1) line := by
  rw [filter_map_trim_lines, numberedLines]
  refine List.ext_getElem (by simp) fun i h₁ h₂ => ?_
  simp [NumberedLine.at_trim]

/-- The line for an answer under a label. -/
def filledLine (p : Text × Text) : Text := p.1 ++ '.' :: ' ' :: p.2

/-- Whether a text consists of lines for the answers, with a line feed after each or between
them. -/
def FilledText (ps : List (Text × Text)) (text : Text) : Prop :=
  text = ps.flatMap (fun p => filledLine p ++ ['\n'])
    ∨ text = Text.join ['\n'] (ps.map filledLine)

variable {ps : List (Text × Text)}

/-- Such lines are lines, blanks at their ends aside. -/
lemma FilledText.map_trim_lines (h : FilledText ps text) (hlabels : ∀ p ∈ ps, isLabel p.1 = true)
    (hanswers : ∀ p ∈ ps, '\n' ∉ p.2) :
    (Text.lines text).map Text.trim = ps.map fun p => (filledLine p).trim := by
  have hfeed : ∀ l ∈ ps.map filledLine, '\n' ∉ l ∧ l ≠ [] := by
    intro l hl
    obtain ⟨p, hp, rfl⟩ := List.mem_map.mp hl
    have hlabel : '\n' ∉ p.1 := fun h => absurd ((isLabel_iff.mp (hlabels p hp)).2 _ h) (by decide)
    simp [filledLine, hlabel, hanswers p hp]
  rcases h with rfl | rfl
  · have hlines := Text.map_trim_lines_flatMap fun l hl => (hfeed l hl).1
    rwa [List.flatMap_map, List.map_map] at hlines
  · have hlines := Text.map_trim_lines_join hfeed
    rwa [List.map_map] at hlines

/-- Answers that are filled in under labels are read with them, and trimmed. -/
lemma FilledText.numberedLines_eq (h : FilledText ps text)
    (hlabels : ∀ p ∈ ps, isLabel p.1 = true) (hanswers : ∀ p ∈ ps, '\n' ∉ p.2) :
    numberedLines text = ps.map fun p => ⟨p.1, p.2.trim⟩ := by
  have hwritten : (ps.map fun p => (filledLine p).trim).filter (fun l => !l.isEmpty)
      = ps.map fun p => (filledLine p).trim := by
    rw [List.filter_eq_self]
    intro l hl
    obtain ⟨p, hp, rfl⟩ := List.mem_map.mp hl
    have hlabel := hlabels p hp
    rw [filledLine,
      Text.trim_append_of_tight (tight_of_isLabel hlabel) (isLabel_iff.mp hlabel).1]
    simp [(isLabel_iff.mp hlabel).1]
  rw [numberedLines_eq_trimmed, h.map_trim_lines hlabels hanswers, hwritten]
  refine List.ext_getElem (by simp) fun i h₁ h₂ => ?_
  simp only [List.getElem_mapIdx, List.getElem_map, NumberedLine.at_trim]
  rw [filledLine, NumberedLine.at_label_append (hlabels _ (List.getElem_mem _)),
    Text.ignoresPadding_trim.front]

/-- The blank response file has a line without an answer for each number. -/
lemma filledText_responseTemplate (numbers : List Text) :
    FilledText (numbers.map fun n => (n, [])) (responseTemplate numbers) := by
  refine Or.inl ?_
  rw [responseTemplate, List.flatMap_map]
  exact List.flatMap_congr fun n _ => by simp [filledLine]

/-! ### Grading response files -/

lemma number_eq_of_mem_zip {answers : List NumberedLine} {p : NumberedLine × NumberedLine}
    (h : answers.map NumberedLine.number = key.map NumberedLine.number) (hp : p ∈ answers.zip key) :
    p.1.number = p.2.number := by
  obtain ⟨i, hi, rfl⟩ := List.getElem_of_mem hp
  have hnumbers := congrArg (·[i]?) h
  rw [List.length_zip, lt_min_iff] at hi
  simpa [List.getElem?_eq_getElem hi.1, List.getElem?_eq_getElem hi.2] using hnumbers

/-- Answers that are numbered as the key is never run out of it, and no number is told of. -/
lemma grade_of_numbers
    (h : (numberedLines s.text).map NumberedLine.number = key.map NumberedLine.number) :
    (∀ number, s.grade rules key ≠ .error (.exhausted number))
      ∧ (s.events rules key).filter Event.isMisnumbered = [] := by
  have hlength : (numberedLines s.text).length = key.length := by
    simpa using congrArg List.length h
  constructor
  · intro number
    rw [Submission.grade, marks_eq_lockstep, lockstep, List.getElem?_eq_none hlength.le]
    cases hfault : (key.take (numberedLines s.text).length).findSome? NumberedLine.fault? with
    | none => simp [Except.map]
    | some fault =>
        obtain ⟨line, -, hline⟩ := List.exists_of_findSome?_eq_some hfault
        -- the faults of a key are errors of another kind
        have hmalformed := isMalformed_of_fault? hline
        have hne : fault ≠ .exhausted number := by
          rintro rfl
          simp [GradingError.isMalformed] at hmalformed
        simpa [Except.map] using hne
  · have hnumbers : ∀ p ∈ consumedPairs (numberedLines s.text) key, p.1.number = p.2.number :=
      fun p hp => number_eq_of_mem_zip h (List.mem_of_mem_take hp)
    rw [Submission.events, filter_isMisnumbered_lineEvents, flatMap_numberEvents,
      List.map_eq_nil_iff, List.filter_eq_nil_iff]
    simpa using hnumbers

/-- Answers without text count as none, against a key that can be read. -/
lemma marks_blank (rules : Rules) (hkey : ∀ line ∈ key, ∃ p, Problem.ofKeyLine line = .ok p) :
    marks rules (key.map fun line => ⟨line.number, []⟩) key = marks rules [] key := by
  have hfaults : ∀ n, (key.take n).findSome? NumberedLine.fault? = none := fun n =>
    List.findSome?_eq_none_iff.mpr fun line hline => by
      obtain ⟨p, hp⟩ := hkey line (List.mem_of_mem_take hline)
      rw [← errorOf_ofKeyLine, hp, errorOf_ok]
  rw [marks_eq_lockstep, marks_eq_lockstep, lockstep, lockstep, hfaults, hfaults,
    List.getElem?_eq_none (by simp), List.getElem?_nil]
  refine congrArg Except.ok (List.ext_getElem (by simp) fun i h₁ h₂ => ?_)
  have hi : i < key.length := by simpa using h₁
  simp [expectedMark, hi, Option.filter_some]

/-! ### The response file of a key -/

/-- **A response file fits its key**: blank, it is read as the numbers of the key without answers,
and filled in, as the numbers with the trimmed answers. So grading never runs out of the key and
tells of no number, and if the key can be read, the blank file is graded as nothing handed in. -/
theorem responseTemplate_fits (keyText : Text) :
    let key := Key.ofText keyText
    let numbers := key.map NumberedLine.number
    let blank := responseTemplate numbers
    numberedLines blank = numbers.map (fun n => ⟨n, []⟩)
      ∧ (∀ ps : List (Text × Text), ps.map Prod.fst = numbers → (∀ p ∈ ps, '\n' ∉ p.2) →
          ∀ text, FilledText ps text →
            numberedLines text = ps.map (fun p => ⟨p.1, p.2.trim⟩)
              ∧ ∀ (rules : Rules) (student : Text),
                (∀ number, Submission.grade rules key ⟨student, text⟩ ≠ .error (.exhausted number))
                ∧ (Submission.events rules key ⟨student, text⟩).filter Event.isMisnumbered = [])
      ∧ ((∀ line ∈ key, ∃ p, Problem.ofKeyLine line = .ok p) →
          ∀ (rules : Rules) (student : Text),
            Submission.grade rules key ⟨student, blank⟩
              = Submission.grade rules key ⟨student, []⟩) := by
  intro key numbers blank
  -- the numbers of a key are labels, and so read as they are written
  have hlabels : ∀ n ∈ numbers, isLabel n = true := by
    intro n hn
    obtain ⟨line, hline, rfl⟩ := List.mem_map.mp hn
    exact isLabel_number_of_mem hline
  have hblank : numberedLines blank = numbers.map fun n => ⟨n, []⟩ := by
    have hread := (filledText_responseTemplate numbers).numberedLines_eq (by simpa using hlabels)
      (by simp)
    rw [hread, List.map_map]
    rfl
  refine ⟨hblank, fun ps hps hanswers text htext => ?_, fun hkey rules student => ?_⟩
  · -- filled in, the file has the numbers of the key
    have hread := htext.numberedLines_eq
      (fun p hp => hlabels p.1 (hps ▸ List.mem_map_of_mem hp)) hanswers
    refine ⟨hread, fun rules student => grade_of_numbers ?_⟩
    rw [hread, List.map_map]
    exact hps
  · -- left blank, it is marked like a file without lines
    rw [Submission.grade, Submission.grade, hblank, List.map_map]
    exact congrArg _ (marks_blank rules hkey)

/-- A key with a line without a number, a number that repeats and a decimal answer, and answers that
look numbered, that are blank, and that end with a carriage return. -/
theorem responseTemplate_fits_irregular :
    let key := Key.ofText "x\n2. b ; 0.5\n\n2. 3.1.5 & 7\r\n".toList
    let blank := responseTemplate (key.map NumberedLine.number)
    let text := "1. 2. x\n2.  \n2. .5 \r".toList
    blank = "1. \n2. \n2. \n".toList
      ∧ numberedLines text
        = [⟨"1".toList, "2. x".toList⟩, ⟨"2".toList, []⟩, ⟨"2".toList, ".5".toList⟩]
      ∧ (Submission.events {} key ⟨"Ada".toList, text⟩).filter Event.isMisnumbered = []
      ∧ Submission.grade {} key ⟨"Ada".toList, blank⟩
        = Submission.grade {} key ⟨"Ada".toList, []⟩ := by
  intro key blank text
  have hread : ∀ line ∈ key, errorOf (Problem.ofKeyLine line) = none := by decide +kernel
  have hok : ∀ line ∈ key, ∃ p, Problem.ofKeyLine line = .ok p := by
    intro line hline
    have herror := hread line hline
    cases h : Problem.ofKeyLine line with
    | ok p => exact ⟨p, rfl⟩
    | error e => simp [h] at herror
  obtain ⟨-, hfilled, hblank⟩ := responseTemplate_fits "x\n2. b ; 0.5\n\n2. 3.1.5 & 7\r\n".toList
  let ps : List (Text × Text) :=
    [("1".toList, "2. x".toList), ("2".toList, " ".toList), ("2".toList, ".5 \r".toList)]
  have hnumbers : ps.map Prod.fst = key.map NumberedLine.number := by decide +kernel
  have htrim : ps.map (fun p => (⟨p.1, p.2.trim⟩ : NumberedLine))
      = [⟨"1".toList, "2. x".toList⟩, ⟨"2".toList, []⟩, ⟨"2".toList, ".5".toList⟩] := by
    decide +kernel
  obtain ⟨hlines, hgrade⟩ := hfilled ps hnumbers (by decide) text (Or.inr (by decide))
  exact ⟨by decide +kernel, hlines.trans htrim, (hgrade {} _).2, hblank hok {} _⟩

end Grading
