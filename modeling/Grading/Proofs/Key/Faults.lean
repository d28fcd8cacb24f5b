/-
What is wrong with a key, found line by line, and found again in the unrolled key.

* `keyFaults_eq_errors`, `keyFaults_eq`: what the lines of a key are found faulty for, in order;
* `exists_of_keyFaults_eq_cons`: the first fault comes from a line, and not from those before it;
* `Entry.Canonical.findSome?_forms`: an alternative has the same tags in all its forms, so that
  expanding it neither hides the first faulty tag nor puts another in front;
* `fault?_compileLine`: the unrolled text of a line is found faulty for the same tag;
* `ofText_recompile`, `keyFaults_recompile`: the key that is written in place of one whose lines are
  all numbered has the same numbers, and the same is wrong with it.
-/
import Grading.Command.Key
import Grading.Proofs.Key.Rewriting
import Grading.Proofs.Problem.Reading

namespace Grading

open Text (writtenLines blankLine)

variable {expand : Expander} {e : Entry} {key : Key} {line label text : Text}

/-! ### The faults of a key -/

/-- The faults of a key are the errors with which its lines are read, in order. -/
lemma keyFaults_eq_errors (key : Key) :
    keyFaults key = key.filterMap fun line => errorOf (Problem.ofKeyLine line) := by
  refine List.filterMap_congr fun line _ => ?_
  cases Problem.ofKeyLine line <;> rfl

lemma keyFaults_eq (key : Key) : keyFaults key = key.filterMap NumberedLine.fault? := by
  rw [keyFaults_eq_errors]
  exact List.filterMap_congr fun line _ => errorOf_ofKeyLine line

lemma fault?_eq_none_iff {line : NumberedLine} :
    line.fault? = none ↔ ∃ p, Problem.ofKeyLine line = .ok p := by
  rw [← errorOf_ofKeyLine, errorOf_eq_none_iff]

/-- The first fault of a key is that of a line before which all lines can be read. -/
lemma exists_of_keyFaults_eq_cons {fault : GradingError} {faults : List GradingError}
    (h : keyFaults key = fault :: faults) :
    ∃ before line after, key = before ++ line :: after ∧ (∀ l ∈ before, l.fault? = none)
      ∧ line.fault? = some fault := by
  rw [keyFaults_eq, List.filterMap_eq_cons_iff] at h
  obtain ⟨before, line, after, hkey, hbefore, hline, -⟩ := h
  exact ⟨before, line, after, hkey, hbefore, hline⟩

/-! ### Forms of an alternative -/

/-- What is found first in a list is found first where it is listed first. -/
lemma findSome?_eraseDups {α β : Type} [DecidableEq α] (f : α → Option β) (l : List α) :
    l.eraseDups.findSome? f = l.findSome? f := by
  induction l using List.reverseRecOn with
  | nil => rfl
  | append_singleton l a ih =>
      rw [Occurrences.eraseDups_concat, List.findSome?_append, ← ih]
      by_cases ha : a ∈ l.eraseDups
      · -- what `a` gives has been found by then
        rw [Occurrences.addLast_of_mem ha]
        cases hfound : l.eraseDups.findSome? f with
        | some b => rfl
        | none => simp [List.findSome?_eq_none_iff.mp hfound a ha]
      · rw [Occurrences.addLast_of_notMem ha, List.findSome?_append]

/-- An alternative has a form, and all its forms have its tags. -/
lemma Entry.Canonical.findSome?_forms {β : Type} (h : e.Canonical) (hexpand : expand.Faithful)
    (f : List Text → Option β) :
    ((e.forms expand).findSome? fun form => f form.tags) = f e.tags := by
  have hself : e.value ∈ trimmedParts (expand e.value) :=
    mem_trimmedParts.mpr ⟨⟨e.value, hexpand.self e.value, h.value_tight.trim_eq⟩, h.value_ne⟩
  obtain ⟨form, forms, hforms⟩ := List.exists_cons_of_ne_nil (List.ne_nil_of_mem hself)
  rw [Entry.forms, List.findSome?_map, hforms, List.findSome?_cons]
  cases hfound : f e.tags with
  | some b => simp [hfound]
  | none => simp [hfound, List.findSome?_eq_none_iff]

/-- The unrolled text of a line is found faulty for the same tag as the text. -/
lemma fault?_compileLine (hexpand : expand.Faithful) (number text : Text) :
    NumberedLine.fault? ⟨number, compileLine expand text⟩ = NumberedLine.fault? ⟨number, text⟩ := by
  simp only [NumberedLine.fault?, findSome?_flatMap, entries_compileLine hexpand.keepsFree]
  rw [entries_eq_forms, findSome?_eraseDups, findSome?_flatMap, ← List.head?_filterMap,
    ← List.head?_filterMap]
  refine congrArg List.head? (List.filterMap_congr fun w hw => ?_)
  exact (canonical_of_mem_entries_asWritten hw).findSome?_forms hexpand _

/-! ### The unrolled key -/

/-- An unrolled line has the number that the line has. -/
lemma numbered?_compileNumbered (hexpand : expand.Faithful)
    (h : numbered? line = some (label, text)) :
    numbered? (compileNumbered expand line) = some (label, compileLine expand text) := by
  rw [compileNumbered_of_numbered? h, numbered?_label_append (isLabel_of_numbered? h),
    Text.ignoresPadding_trim.front, (hexpand.tight_compileLine text).trim_eq]

lemma NumberedLine.at_of_numbered? (h : numbered? line = some (label, text)) (position : Nat) :
    NumberedLine.at position line = ⟨label, text⟩ := by
  simp [NumberedLine.at, splitNumber, h]

/-- A key of numbered lines has as many lines when it is unrolled, and each has its number. -/
lemma ofText_recompile (hexpand : expand.Faithful) {s : Text}
    (h : ∀ line ∈ writtenLines s, numbered? line ≠ none) :
    Key.ofText (recompile expand s).text
      = (Key.ofText s).map fun line => ⟨line.number, compileLine expand line.text⟩ := by
  -- no line is lost, since each keeps its number
  have hwritten : writtenLines (recompile expand s).text
      = (writtenLines s).map (compileNumbered expand) := by
    rw [recompile, hexpand.writtenLines_compileKey_concat, hexpand.writtenLines_compileKey,
      List.filter_eq_self]
    intro l hl
    obtain ⟨line, hline, rfl⟩ := List.mem_map.mp hl
    obtain ⟨⟨label, text⟩, hnum⟩ := Option.ne_none_iff_exists'.mp (h line hline)
    have hagain := numbered?_compileNumbered hexpand hnum
    rw [Bool.not_eq_true', ← Bool.not_eq_true, Text.blankLine_iff]
    intro hblank
    simp [numbered?, hblank, Text.cut?] at hagain
  rw [Key.ofText, Key.ofText, numberedLines, numberedLines, hwritten]
  refine List.ext_getElem (by simp) fun i h₁ h₂ => ?_
  simp only [List.getElem_mapIdx, List.getElem_map]
  obtain ⟨⟨label, text⟩, hnum⟩ := Option.ne_none_iff_exists'.mp (h _ (List.getElem_mem _))
  rw [NumberedLine.at_of_numbered? (numbered?_compileNumbered hexpand hnum),
    NumberedLine.at_of_numbered? hnum]

/-- The same is wrong with a key of numbered lines and with the key that is written in its place. -/
lemma keyFaults_recompile (hexpand : expand.Faithful) {s : Text}
    (h : ∀ line ∈ writtenLines s, numbered? line ≠ none) :
    keyFaults (Key.ofText (recompile expand s).text) = keyFaults (Key.ofText s) := by
  rw [keyFaults_eq, keyFaults_eq, ofText_recompile hexpand h, List.filterMap_map]
  exact List.filterMap_congr fun line _ => fault?_compileLine hexpand line.number line.text

end Grading
