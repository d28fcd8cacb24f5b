/-
The warnings about a key, and the errors that stop the grading of submissions.

* `grade_eq_error_iff`: grading stops at a tag of the key exactly if that is the first fault of the
  key lines that the submission reaches;
* `grade_of_keyFaults_nil`, `grade_of_keyFaults_cons`: a key without faults stops no submission, and
  the first fault of a key stops those that reach its line;
* `told_compilePlan`, `told_compilePlan_inPlace`: what the user is told about a key when it is
  unrolled;
* `keyWarnings_predict_grading`: the user is told the faults of a key, and these are the errors that
  grading stops with.
-/
import Grading.Proofs.Command.Run
import Grading.Proofs.Command.Setting
import Grading.Proofs.Key.Faults
import Grading.Proofs.Submission.Lockstep

namespace Grading

open Text (writtenLines)

variable {key : Key} {rules : Rules} {s : Submission} {e fault : GradingError}
  {faults : List GradingError}

/-! ### Errors of grading -/

/-- Grading stops at a tag of the key exactly if that is the first fault of the key lines that the
submission reaches. -/
lemma grade_eq_error_iff (he : e.isMalformed = true) :
    s.grade rules key = .error e
      ↔ (key.take (writtenLines s.text).length).findSome? NumberedLine.fault? = some e := by
  rw [Submission.grade, marks_eq_lockstep, lockstep, length_numberedLines]
  cases (key.take (writtenLines s.text).length).findSome? NumberedLine.fault? with
  | some fault => simp [Except.map]
  | none =>
      cases (numberedLines s.text)[key.length]? with
      | none => simp [Except.map]
      | some answer =>
          have hne : GradingError.exhausted answer.number ≠ e := by
            rintro rfl
            simp [GradingError.isMalformed] at he
          simp [Except.map, hne]

/-- A key without faults stops no submission. -/
lemma grade_of_keyFaults_nil (h : keyFaults key = []) (he : e.isMalformed = true) :
    s.grade rules key ≠ .error e := by
  rw [keyFaults_eq, List.filterMap_eq_nil_iff] at h
  rw [Ne, grade_eq_error_iff he,
    List.findSome?_eq_none_iff.mpr fun line hline => h line (List.mem_of_mem_take hline)]
  simp

/-- The first fault of a key stops exactly the submissions that reach its line. -/
lemma grade_of_keyFaults_cons (h : keyFaults key = fault :: faults) :
    ∃ i, ∃ hi : i < key.length, Problem.ofKeyLine key[i] = .error fault
      ∧ (∀ j, ∀ hj : j < i, ∃ p, Problem.ofKeyLine key[j] = .ok p)
      ∧ ∀ (rules : Rules) (s : Submission) (e : GradingError), e.isMalformed = true →
        (s.grade rules key = .error e ↔ i < (writtenLines s.text).length ∧ e = fault) := by
  obtain ⟨before, line, after, rfl, hbefore, hline⟩ := exists_of_keyFaults_eq_cons h
  refine ⟨before.length, by simp, ?_, fun j hj => ?_, fun rules s e he => ?_⟩
  · rw [List.getElem_append_right le_rfl]
    simpa using fault?_eq_some_iff.mp hline
  · rw [List.getElem_append_left hj]
    exact fault?_eq_none_iff.mp (hbefore _ (List.getElem_mem hj))
  · rw [grade_eq_error_iff he, List.take_append, List.findSome?_append,
      List.findSome?_eq_none_iff.mpr fun l hl => hbefore l (List.mem_of_mem_take hl),
      Option.none_or]
    -- the line is reached if a line is left for it after those before it
    cases hleft : (writtenLines s.text).length - before.length with
    | zero => simp [Nat.le_of_sub_eq_zero hleft]
    | succ n =>
        have hreached : before.length < (writtenLines s.text).length := by omega
        simp [hline, hreached, eq_comm]

/-! ### What the user is told -/

section Told

variable {around : Surroundings} {files : Files} {solution : Path} {config : Option Path}
  {settings : Settings} {keyText : Text} {d d' : Disk}

/-- Warnings change no files. -/
lemma changesDisk_of_mem_warnings :
    ∀ a ∈ (keyWarnings key).map Action.tell, a.changesDisk = false := by
  rw [List.forall_mem_map]
  exact fun _ _ => rfl

/-- When a key is unrolled to be shown, the user is told what is wrong with it. -/
lemma told_compilePlan (hsettings : findSettings around files config = .ok settings)
    (hkey : files solution = .ok keyText) :
    ((compilePlan around files solution false config).run d).told
      = keyWarnings (Key.ofText keyText) := by
  have hplan : compilePlan around files solution false config
      = { actions := .printLine (compileKey settings.expander keyText)
            :: (keyWarnings (Key.ofText keyText)).map .tell } := by
    rw [compilePlan, hsettings, readFor_eq_ok _ hkey]
    rfl
  rw [hplan, Plan.run, Run.ofActions_of_unchanged, Run.told_eq]
  · simp [List.filterMap_cons, Action.printLine, Action.line?]
  · exact List.forall_mem_cons.mpr ⟨rfl, changesDisk_of_mem_warnings⟩

/-- When a key is unrolled in place, the user is told what is wrong with the key that is written. -/
lemma told_compilePlan_inPlace (hsettings : findSettings around files config = .ok settings)
    (hkey : files solution = .ok keyText)
    (hwrite : d.write solution (recompile settings.expander keyText).text = .ok d') :
    ((compilePlan around files solution true config).run d).told
      = keyWarnings (Key.ofText (recompile settings.expander keyText).text) := by
  have hplan : compilePlan around files solution true config
      = { actions := replaceActions solution (recompile settings.expander keyText) ++
            (keyWarnings (Key.ofText (recompile settings.expander keyText).text)).map .tell } := by
    rw [compilePlan, hsettings, readFor_eq_ok _ hkey]
    rfl
  -- once the key is written, no action changes the disk
  have hdone : (Action.write (some .writeKey) solution
      (recompile settings.expander keyText).text).onDisk d = (d', none) := by
    rw [Action.onDisk, hwrite]
  rw [hplan, Plan.run, replaceActions, List.cons_append, Run.ofActions_cons_of_ok hdone,
    Run.ofActions_of_unchanged]
  · rw [Run.told_eq]
    simp [List.filterMap_cons, Action.printLine, Action.line?]
  · intro a ha
    rcases List.mem_append.mp ha with ha | ha
    · simp only [List.mem_cons, List.not_mem_nil, or_false] at ha
      rcases ha with rfl | rfl <;> rfl
    · exact changesDisk_of_mem_warnings a ha

end Told

lemma Settings.faithful_expander (settings : Settings) : settings.expander.Faithful := by
  rw [Settings.expander]
  split
  · exact Expander.faithful_withParentheses
  · exact Expander.faithful_asWritten

/-- **Warnings predict errors**: the user is told the faults of a key, which are what its lines
cannot be read for, and how many there are. A key without faults stops no submission with a tag
that cannot be read; of other keys, the first fault comes from a line, and stops exactly the
submissions that have more lines than stand before it. If all lines of the key are numbered, the
same is told when the key is unrolled in place, under either expander. -/
theorem keyWarnings_predict_grading (around : Surroundings) (files : Files) (solution : Path)
    (config : Option Path) (d : Disk) {settings : Settings} {keyText : Text}
    (hsettings : findSettings around files config = .ok settings)
    (hkey : files solution = .ok keyText) :
    let key := Key.ofText keyText
    let faults := keyFaults key
    let warnings := faults.map (fun e => "WARNING: ".toList ++ e.message)
      ++ if faults.isEmpty then []
        else [[], Decimal.digits faults.length ++ " warning(s) found.".toList]
    faults = key.filterMap (fun line => errorOf (Problem.ofKeyLine line))
      ∧ ((compilePlan around files solution false config).run d).told = warnings
      ∧ (faults = [] → ∀ (rules : Rules) (s : Submission) (e : GradingError),
          e.isMalformed = true → s.grade rules key ≠ .error e)
      ∧ (∀ fault rest, faults = fault :: rest →
          ∃ i, ∃ hi : i < key.length, Problem.ofKeyLine key[i] = .error fault
            ∧ (∀ j, ∀ hj : j < i, ∃ p, Problem.ofKeyLine key[j] = .ok p)
            ∧ ∀ (rules : Rules) (s : Submission) (e : GradingError), e.isMalformed = true →
              (s.grade rules key = .error e ↔ i < (writtenLines s.text).length ∧ e = fault))
      ∧ ((∀ line ∈ writtenLines keyText, numbered? line ≠ none) →
          (∀ expand ∈ [Expander.asWritten, .withParentheses],
            keyFaults (Key.ofText (recompile expand keyText).text) = faults)
          ∧ ∀ d', d.write solution (recompile settings.expander keyText).text = .ok d' →
            ((compilePlan around files solution true config).run d).told = warnings) := by
  intro key faults warnings
  refine ⟨keyFaults_eq_errors key, told_compilePlan hsettings hkey,
    fun h rules s e => grade_of_keyFaults_nil h, fun fault rest => grade_of_keyFaults_cons,
    fun h => ⟨fun expand hexpand => ?_, fun d' hwrite => ?_⟩⟩
  · exact keyFaults_recompile (Expander.faithful_of_mem hexpand) h
  · -- the faults told are those of the key that is written, which has the faults of this one
    rw [told_compilePlan_inPlace hsettings hkey hwrite, keyWarnings,
      keyFaults_recompile settings.faithful_expander h]

/-- A faulty line after one that is in order, with two faulty tags and a value that is expanded: the
user is told the first tag, and how many lines are faulty. -/
theorem keyWarnings_predict_grading_expanded :
    let around : Surroundings := ⟨none, {}, ⟨.nil, ⟨0, 0⟩⟩, [], 0⟩
    let file := "key".toList
    let keyText := "1. x\n2. y & 1,2 ; good; 2; range z".toList
    let fault := GradingError.malformed "2".toList "2".toList .badRatio
    let d : Disk :=
      ⟨[([localSettings], .file "expand_equivalents = true".toList), ([file], .file keyText)], []⟩
    (∀ (rules : Rules) (s : Submission) (e : GradingError), e.isMalformed = true →
        (s.grade rules (Key.ofText keyText) = .error e
          ↔ 1 < (writtenLines s.text).length ∧ e = fault))
      ∧ ((compilePlan around d.files file true none).run d).told
        = ["WARNING: formatting issue in answer key problem 2: tag '2' ".toList
            ++ "is numeric but is neither a range nor a credit ratio in (-1, 1); ".toList
            ++ "expected N. VALUE ; range NUMBER ; range NUMBER to NUMBER ; ".toList
            ++ "PARTIAL CREDIT RATIO ; FEEDBACK".toList,
          [], "1 warning(s) found.".toList] := by
  intro around file keyText fault d
  have hread : ((Settings.ofToml? "expand_equivalents = true".toList).map Settings.invalid?)
      = some none := by decide +kernel
  obtain ⟨settings, htoml, hvalid⟩ := Option.map_eq_some_iff.mp hread
  have hfile : settingsFile d.files around.home none = .ok (some localSettings) := rfl
  have hsettings : findSettings around d.files none = .ok settings :=
    findSettings_of_file hfile rfl htoml rfl hvalid
  have hwrite : ∀ text, d.write file text = .ok (d.put [file] (.file text)) := fun _ => rfl
  have hnumbered : ∀ line ∈ writtenLines keyText, numbered? line ≠ none := by decide
  have hlength : (Key.ofText keyText).length = 2 := by decide
  have hok : (Key.ofText keyText)[0]?.bind NumberedLine.fault? = none := by decide +kernel
  have hfaults : keyFaults (Key.ofText keyText) = [fault] := by decide +kernel
  obtain ⟨-, -, -, hfirst, hagain⟩ :=
    keyWarnings_predict_grading around d.files file none d hsettings rfl
  refine ⟨?_, ?_⟩
  · obtain ⟨i, hi, hline, -, hgrade⟩ := hfirst fault [] hfaults
    -- the first line is in order, so the faulty one is the second
    obtain rfl | rfl : i = 0 ∨ i = 1 := by omega
    · rw [List.getElem?_eq_getElem hi, Option.bind_some, fault?_eq_some_iff.mpr hline] at hok
      exact absurd hok (by simp)
    · exact hgrade
  · -- the user is told the message of the fault, and that there is one
    rw [(hagain hnumbered).2 _ (hwrite _), hfaults]
    decide +kernel

end Grading
