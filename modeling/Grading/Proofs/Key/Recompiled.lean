/-
What is told of a key file that is unrolled in place: how many lines it has, and how many of them
are different now.

* `Vanishes`, `compileNumbered_eq_nil_iff_vanishes`: the lines that nothing is left of, which are
  the same under every expander;
* `linesKept`, `lines_compileKey`: an unrolled key is read back line by line, but for a last line
  that vanishes;
* `lines_recompile`, `changed_recompile`: what is told is told of these lines;
* `map_trim_writtenLines_recompile`: if no line is different, they are the lines of the new file;
* `recompile_tells_iff`: so what is told is right exactly if the last line does not vanish;
* `recompile_misses_last_line`: a key whose last line is a separator alone.
-/
import Grading.Proofs.Key.Rewriting

namespace Grading

open Text (writtenLines blankLine)

variable {expand : Expander} {line s : Text} {ls : List Text}

/-! ### Lines that vanish -/

/-- Whether nothing is left of a line when it is unrolled: it has neither a number nor an
alternative. -/
def Vanishes (line : Text) : Prop := numbered? line = none ∧ entries .asWritten line.trim = []

instance : DecidablePred Vanishes := fun _ => inferInstanceAs (Decidable (_ ∧ _))

namespace Expander.Faithful

/-- An expander that keeps each value gives alternatives to all lines that have some. -/
lemma entries_eq_nil_iff (h : expand.Faithful) (line : Text) :
    entries expand line = [] ↔ entries .asWritten line = [] := by
  rw [entries_eq_forms]
  simp only [List.eq_nil_iff_forall_not_mem, List.mem_eraseDups, List.mem_flatMap]
  refine ⟨fun hnone e he => hnone e ⟨e, he, ?_⟩, fun hnone e ⟨w, hw, _⟩ => hnone w hw⟩
  have hcanonical := canonical_of_mem_entries_asWritten he
  have hself : e.value ∈ trimmedParts (expand e.value) :=
    mem_trimmedParts.mpr ⟨⟨e.value, h.self e.value, hcanonical.value_tight.trim_eq⟩,
      hcanonical.value_ne⟩
  exact List.mem_map.mpr ⟨e.value, hself, rfl⟩

lemma compileNumbered_eq_nil_iff_vanishes (h : expand.Faithful) (line : Text) :
    compileNumbered expand line = [] ↔ Vanishes line := by
  rw [h.compileNumbered_eq_nil_iff, h.entries_eq_nil_iff, Vanishes]

end Expander.Faithful

/-- Whether a line is different when it is unrolled, blanks at its ends aside. -/
def differs (expand : Expander) (line : Text) : Bool :=
  line.trim != (compileNumbered expand line).trim

lemma trim_ne_nil_of_mem_writtenLines (h : line ∈ writtenLines s) : line.trim ≠ [] := by
  have hwritten := (List.mem_filter.mp h).2
  rwa [Bool.not_eq_true', ← Bool.not_eq_true, Text.blankLine_iff] at hwritten

/-- A written line that vanishes is different. -/
lemma Expander.Faithful.differs_of_vanishes (h : expand.Faithful) (hline : line ∈ writtenLines s)
    (hvanishes : Vanishes line) : differs expand line = true := by
  rw [differs, (h.compileNumbered_eq_nil_iff_vanishes line).mpr hvanishes]
  exact bne_iff_ne.mpr (trim_ne_nil_of_mem_writtenLines hline)

/-! ### Lines that are read back -/

/-- The lines of a key that are read back when it is unrolled: all but a last one that vanishes. -/
def linesKept (ls : List Text) : List Text :=
  if ls.getLast?.any fun line => Vanishes line then ls.dropLast else ls

lemma prefix_linesKept (ls : List Text) : linesKept ls <+: ls := by
  rw [linesKept]
  split
  · exact List.dropLast_prefix ls
  · exact List.prefix_rfl

lemma linesKept_eq_self (h : ∀ line ∈ ls.getLast?, ¬ Vanishes line) : linesKept ls = ls := by
  refine if_neg fun hlast => ?_
  obtain ⟨line, hline, hvanishes⟩ := (Option.any_eq_true _ _).mp hlast
  exact h line hline (of_decide_eq_true hvanishes)

lemma linesKept_concat (h : Vanishes line) : linesKept (ls ++ [line]) = ls := by
  rw [linesKept, List.getLast?_concat, if_pos, List.dropLast_concat]
  exact decide_eq_true h

/-- An unrolled key is read back line by line. -/
lemma lines_compileKey (h : expand.Faithful) (s : Text) :
    Text.lines (compileKey expand s)
      = (linesKept (writtenLines s)).map (compileNumbered expand) := by
  rw [compileKey, Text.lines_join_eq h.isLine_of_mem_compileKey, List.getLast?_map]
  by_cases hlast : ∃ line ∈ (writtenLines s).getLast?, Vanishes line
  · obtain ⟨line, hline, hvanishes⟩ := hlast
    obtain ⟨front, hfront⟩ := List.getLast?_eq_some_iff.mp hline
    rw [hfront, linesKept_concat hvanishes, List.getLast?_concat, Option.map_some,
      (h.compileNumbered_eq_nil_iff_vanishes line).mpr hvanishes, if_pos rfl, List.map_append,
      List.map_singleton, List.dropLast_concat]
  · rw [linesKept_eq_self fun line hline hvanishes => hlast ⟨line, hline, hvanishes⟩, if_neg]
    intro hnil
    obtain ⟨line, hline, hvanishes⟩ := Option.map_eq_some_iff.mp hnil
    exact hlast ⟨line, hline, (h.compileNumbered_eq_nil_iff_vanishes line).mp hvanishes⟩

/-! ### What is told -/

lemma lines_recompile (h : expand.Faithful) (s : Text) :
    (recompile expand s).lines = (linesKept (writtenLines s)).length := by
  rw [recompile, lines_compileKey h, List.length_map]

/-- A list is taken together with what becomes of its front. -/
lemma zipWith_map_of_prefix {α β γ : Type} (f : α → β → γ) (g : α → β) {xs ys : List α}
    (h : xs <+: ys) : List.zipWith f ys (xs.map g) = xs.map fun x => f x (g x) := by
  obtain ⟨rest, rfl⟩ := h
  induction xs with
  | nil => simp
  | cons x xs ih => simp [ih]

/-- The lines that are compared are those that are read back. -/
lemma changed_recompile (h : expand.Faithful) (s : Text) :
    (recompile expand s).changed = (linesKept (writtenLines s)).countP (differs expand) := by
  rw [recompile, lines_compileKey h, zipWith_map_of_prefix _ _ (prefix_linesKept _), List.count,
    List.countP_map]
  exact List.countP_congr fun line _ => by simp [differs]

/-- If no line is told to be different, the lines of the new file are those that are read back. -/
lemma map_trim_writtenLines_recompile (h : expand.Faithful)
    (hsame : (recompile expand s).changed = 0) :
    (writtenLines (recompile expand s).text).map Text.trim
      = (linesKept (writtenLines s)).map Text.trim := by
  rw [changed_recompile h, List.countP_eq_zero] at hsame
  have htrim : ∀ line ∈ linesKept (writtenLines s),
      (compileNumbered expand line).trim = line.trim := by
    intro line hline
    have hline' := hsame line hline
    rw [Bool.not_eq_true, differs, bne_eq_false_iff_eq] at hline'
    exact hline'.symm
  have hblank : ∀ l ∈ (linesKept (writtenLines s)).map (compileNumbered expand),
      (!blankLine l) = true := by
    rw [List.forall_mem_map]
    intro line hline
    rw [Bool.not_eq_true', ← Bool.not_eq_true, Text.blankLine_iff, htrim line hline]
    exact trim_ne_nil_of_mem_writtenLines ((prefix_linesKept _).mem hline)
  rw [recompile, h.writtenLines_compileKey_concat, writtenLines, lines_compileKey h,
    List.filter_eq_self.mpr hblank, List.map_map]
  exact List.map_congr_left htrim

/-- **What is told of an unrolled key** is right exactly if the last of its lines does not vanish:
how many lines there are, how many of them are different, and that the lines of the new file are
the same, if none is. Otherwise the last line is not counted, neither as a line nor as a different
one, and the new file may lack it although no line is told to be different. -/
theorem recompile_tells_iff (hexpand : expand ∈ [Expander.asWritten, .withParentheses])
    (s : Text) :
    let old := writtenLines s
    let told := recompile expand s
    (told.lines = old.length ∧ told.changed = old.countP (differs expand)
        ∧ (told.changed = 0 → (writtenLines told.text).map Text.trim = old.map Text.trim)
      ↔ ∀ line ∈ old.getLast?, ¬ Vanishes line)
    ∧ ((∃ line ∈ old.getLast?, Vanishes line) →
        told.lines + 1 = old.length ∧ told.changed + 1 = old.countP (differs expand)
          ∧ (told.changed = 0 →
            (writtenLines told.text).map Text.trim = old.dropLast.map Text.trim)) := by
  intro old told
  have h := Expander.faithful_of_mem hexpand
  -- a last line that vanishes is not counted
  have hlost : (∃ line ∈ old.getLast?, Vanishes line) →
      told.lines + 1 = old.length ∧ told.changed + 1 = old.countP (differs expand)
        ∧ (told.changed = 0 →
          (writtenLines told.text).map Text.trim = old.dropLast.map Text.trim) := by
    rintro ⟨line, hline, hvanishes⟩
    obtain ⟨front, hfront⟩ := List.getLast?_eq_some_iff.mp hline
    have hkept : linesKept old = front := hfront ▸ linesKept_concat hvanishes
    have hdiffers : differs expand line = true :=
      h.differs_of_vanishes (List.mem_of_getLast? hline) hvanishes
    refine ⟨?_, ?_, fun hsame => ?_⟩
    · rw [lines_recompile h, hkept, hfront, List.length_append, List.length_singleton]
    · rw [changed_recompile h, hkept, hfront, List.countP_append, List.countP_singleton,
        if_pos hdiffers]
    · rw [map_trim_writtenLines_recompile h hsame, hkept, hfront, List.dropLast_concat]
  refine ⟨⟨fun ⟨hlines, _⟩ line hline hvanishes => ?_, fun hlast => ?_⟩, hlost⟩
  · have hless := (hlost ⟨line, hline, hvanishes⟩).1
    omega
  · -- where none vanishes, all lines are kept
    have hkept : linesKept old = old := linesKept_eq_self hlast
    refine ⟨?_, ?_, fun hsame => ?_⟩
    · rw [lines_recompile h, hkept]
    · rw [changed_recompile h, hkept]
    · rw [map_trim_writtenLines_recompile h hsame, hkept]

/-- Lines that vanish in front of others are counted. -/
theorem recompile_tells_vanishing_front :
    let s := "&\n1. 5,4 \r\n ;x\n2. b | b\n3. a".toList
    (recompile .withParentheses s).lines = 5 ∧ (recompile .withParentheses s).changed = 4 := by
  intro s
  have hexpand : .withParentheses ∈ [Expander.asWritten, .withParentheses] := by simp
  obtain ⟨hlines, hchanged, -⟩ := (recompile_tells_iff hexpand s).1.mpr (by decide)
  exact ⟨hlines.trans (by decide), hchanged.trans (by decide)⟩

/-- A last line of separators alone is lost, and nothing is told of it. -/
theorem recompile_misses_last_line :
    let s := "1. a\n&\n".toList
    recompile .asWritten s = ⟨"1. a\n\n".toList, 1, 0⟩
      ∧ writtenLines s = ["1. a".toList, "&".toList]
      ∧ (writtenLines s).countP (differs .asWritten) = 1
      ∧ writtenLines (recompile .asWritten s).text = ["1. a".toList] := by
  decide

end Grading
