/-
The numbers under which a report lists the problems of a key.

* `listedNumber`, `map_number_marks`: a problem goes by the number of its answer, and by the number
  of its key line if there is no answer;
* `KeepNumbers`, `mapIdx_listedNumber_eq_iff`: these are the numbers of the key exactly if every
  answer has the number of its key line;
* `report_lists_key_iff`: the numbers of a report;
* `grade_lists_number_twice`: a student who skips a problem has another one listed twice.
-/
import Grading.Proofs.Problem.Reading
import Grading.Submission.Basic

namespace Grading

variable {rules : Rules} {answers : List NumberedLine} {key : Key}
  {answer line : NumberedLine}

/-! ### The number of a mark -/

/-- The number under which a key line is listed, given the line of the submission at the same
place, if there is one. -/
def listedNumber (answer? : Option NumberedLine) (line : NumberedLine) : Text :=
  ((answer?.filter fun a => !a.text.isEmpty).getD line).number

lemma number_leftOver (rules : Rules) (line : NumberedLine) :
    (leftOver rules line).number = listedNumber none line := by
  rw [leftOver]
  cases h : Problem.ofKeyLine line with
  | error e => rfl
  | ok p => exact number_of_ofKeyLine h

lemma number_markLine {p : Problem} (h : Problem.ofKeyLine line = .ok p) (rules : Rules)
    (answer : NumberedLine) :
    (markLine rules p answer).number = listedNumber (some answer) line := by
  rw [markLine, listedNumber]
  cases htext : answer.text.isEmpty with
  | true =>
      rw [if_pos rfl, Option.filter_some_neg (by simp [htext])]
      exact number_of_ofKeyLine h
  | false =>
      rw [if_neg (by simp), Option.filter_some_pos (by simp [htext])]
      rfl

/-- The marks are listed in the order of the key, one for each of its lines. -/
lemma map_number_marks {problems : List ProblemMark}
    (h : marks rules answers key = .ok problems) :
    problems.map ProblemMark.number = key.mapIdx fun i line => listedNumber answers[i]? line := by
  induction answers generalizing key problems with
  | nil =>
      rw [marks] at h
      obtain rfl := Except.ok.inj h
      refine List.ext_getElem (by simp) fun i h₁ h₂ => ?_
      simp only [List.getElem_map, List.getElem_mapIdx, number_leftOver, List.getElem?_nil]
  | cons answer answers ih =>
      cases key with
      | nil => exact absurd h (by rintro ⟨⟩)
      | cons line key =>
          rw [marks] at h
          cases hline : Problem.ofKeyLine line with
          | error e => exact absurd (hline ▸ h) (by rintro ⟨⟩)
          | ok p =>
              cases hothers : marks rules answers key with
              | error e => exact absurd (hline ▸ hothers ▸ h) (by rintro ⟨⟩)
              | ok others =>
                  rw [hline, hothers] at h
                  obtain rfl := Except.ok.inj h
                  rw [List.map_cons, List.mapIdx_cons, ih hothers, number_markLine hline]
                  rfl

/-! ### The numbers of the key -/

/-- Every answer has the number of the key line at the same place. -/
def KeepNumbers (answers : List NumberedLine) (key : Key) : Prop :=
  ∀ p ∈ answers.zip key, p.1.text = [] ∨ p.1.number = p.2.number

instance (answers : List NumberedLine) (key : Key) : Decidable (KeepNumbers answers key) :=
  inferInstanceAs (Decidable (∀ p ∈ answers.zip key, p.1.text = [] ∨ p.1.number = p.2.number))

lemma listedNumber_some_eq_iff :
    listedNumber (some answer) line = line.number
      ↔ answer.text = [] ∨ answer.number = line.number := by
  rw [listedNumber]
  cases htext : answer.text.isEmpty with
  | true =>
      rw [Option.filter_some_neg (by simp [htext])]
      simpa using Or.inl (List.isEmpty_iff.mp htext)
  | false =>
      rw [Option.filter_some_pos (by simp [htext]), Option.getD_some]
      have hne : answer.text ≠ [] := fun hnil => by simp [hnil] at htext
      simp [hne]

/-- The problems are listed by the numbers of the key exactly if every answer has the number of its
key line. -/
lemma mapIdx_listedNumber_eq_iff (answers : List NumberedLine) (key : Key) :
    key.mapIdx (fun i line => listedNumber answers[i]? line) = key.map NumberedLine.number
      ↔ KeepNumbers answers key := by
  rw [KeepNumbers]
  induction answers generalizing key with
  | nil =>
      refine iff_of_true (List.ext_getElem (by simp) fun i h₁ h₂ => ?_) (by simp)
      simp [listedNumber]
  | cons answer answers ih =>
      cases key with
      | nil => simp
      | cons line key =>
          rw [List.mapIdx_cons, List.map_cons, List.cons.injEq, List.zip_cons_cons,
            List.forall_mem_cons]
          exact and_congr listedNumber_some_eq_iff (ih key)

/-! ### The numbers of a report -/

/-- **The numbers of a report**: it lists the lines of the key in order, each by the number of its
answer or, without one, by its own. These are the numbers of the key exactly if every answer has
the number of its key line; then a key without repeated numbers gives a report without them that
misses none. -/
theorem report_lists_key_iff {s : Submission} {report : Report}
    (h : s.grade rules key = .ok report) :
    let answers := numberedLines s.text
    let numbers := report.problems.map ProblemMark.number
    numbers = key.mapIdx (fun i line => listedNumber answers[i]? line)
      ∧ (numbers = key.map NumberedLine.number ↔ KeepNumbers answers key)
      ∧ (KeepNumbers answers key → (key.map NumberedLine.number).Nodup →
          numbers.Nodup ∧ ∀ line ∈ key, line.number ∈ numbers) := by
  intro answers numbers
  have hnumbers : numbers = key.mapIdx fun i line => listedNumber answers[i]? line := by
    rw [Submission.grade] at h
    cases hmarks : marks rules answers key with
    | error e => exact absurd (hmarks ▸ h) (by rintro ⟨⟩)
    | ok problems =>
        rw [hmarks] at h
        obtain rfl := Except.ok.inj h
        exact map_number_marks hmarks
  have hiff : numbers = key.map NumberedLine.number ↔ KeepNumbers answers key := by
    rw [hnumbers, mapIdx_listedNumber_eq_iff]
  refine ⟨hnumbers, hiff, fun hkeep hnodup => ?_⟩
  rw [hiff.mpr hkeep]
  exact ⟨hnodup, fun line hline => List.mem_map_of_mem hline⟩

/-- A blank line whose number is not that of its key line, between answers, and a problem that is
never reached. -/
theorem report_lists_key_blank :
    let key := Key.ofText "1. a\n2. b\n3. c\n4. d\n".toList
    let s : Submission := ⟨"Ada".toList, "1. a\n7.\n3. x\n".toList⟩
    ∃ report, s.grade {} key = .ok report
      ∧ KeepNumbers (numberedLines s.text) key
      ∧ report.problems.map ProblemMark.number = key.map NumberedLine.number
      ∧ (report.problems.map ProblemMark.number).Nodup := by
  intro key s
  have hgraded : errorOf (s.grade {} key) = none := by decide
  cases hgrade : s.grade {} key with
  | error e => simp [hgrade] at hgraded
  | ok report =>
      have hkeep : KeepNumbers (numberedLines s.text) key := by decide
      obtain ⟨-, hiff, hnodup⟩ := report_lists_key_iff hgrade
      exact ⟨report, rfl, hkeep, hiff.mpr hkeep, (hnodup hkeep (by decide)).1⟩

/-- A student who skips the first of two problems has the second one listed twice, and the first one
nowhere. -/
theorem grade_lists_number_twice :
    let key := Key.ofText "1. a\n2. b\n".toList
    let s : Submission := ⟨"Ada".toList, "2. b\n".toList⟩
    key.map NumberedLine.number = ["1".toList, "2".toList]
      ∧ (s.grade {} key).map (fun report => report.problems.map ProblemMark.number)
        = .ok ["2".toList, "2".toList] := by
  exact ⟨by decide, rfl⟩

end Grading
