/-
Unrolling a whole key a second time.

* `compileNumbered_of_numbered?`, `compileNumbered_of_unnumbered`: what a line with and without a
  number becomes;
* `compileNumbered_numbered_again`: a line with a number stays the same the second time;
* `ReadsAgain`, `compileNumbered_again_iff`: a line without one stays exactly if its first
  alternative does not look numbered once nothing stands in front of it any more, or looks so in
  just the way that unrolling writes numbers;
* `writtenLines_compileKey`: the lines of an unrolled key are the unrolled lines but the blank ones;
* `KeyReadsAgain`, `compileKey_asWritten_idempotent_iff`: the keys that stay the same as a whole;
* `compileKey_asWritten_not_idempotent`: a decimal answer after an empty alternative does not.
-/
import Grading.Proofs.Key.Numbered
import Grading.Proofs.Key.Unrolled
import Grading.Proofs.Text.Lines

namespace Grading

open Text (IsLine writtenLines blankLine)

variable {e : Entry} {es : List Entry} {line label text : Text}

/-! ### Lines and their numbers -/

lemma compileNumbered_of_numbered? {expand : Expander} (h : numbered? line = some (label, text)) :
    compileNumbered expand line = label ++ '.' :: ' ' :: compileLine expand text := by
  simp [compileNumbered, splitNumber, h]

lemma compileNumbered_of_unnumbered {expand : Expander} (h : numbered? line = none) :
    compileNumbered expand line = compileLine expand line.trim := by
  simp [compileNumbered, splitNumber, h]

/-- A text that is unrolled already stays as it is. -/
lemma compileLine_renderEntries (h : ∀ e ∈ es, e.Canonical) (hn : es.Nodup) :
    compileLine .asWritten (renderEntries es) = renderEntries es := by
  rw [compileLine, entries_renderEntries h hn]

lemma canonical_asWritten (line : Text) : ∀ e ∈ entries .asWritten line, e.Canonical :=
  fun _ => canonical_of_mem_entries_asWritten

lemma Expander.Faithful.tight_compileLine {expand : Expander} (h : expand.Faithful) (line : Text) :
    (compileLine expand line).Tight :=
  tight_renderEntries fun _ => canonical_of_mem_entries h.keepsFree

lemma tight_compileLine (line : Text) : (compileLine .asWritten line).Tight :=
  Expander.faithful_asWritten.tight_compileLine line

/-- A number in front of an unrolled text is read as it is written. -/
lemma compileNumbered_label_append (hlabel : isLabel label = true) (h : ∀ e ∈ es, e.Canonical)
    (hn : es.Nodup) :
    compileNumbered .asWritten (label ++ '.' :: ' ' :: renderEntries es)
      = label ++ '.' :: ' ' :: renderEntries es := by
  have htext : Text.trim (' ' :: renderEntries es) = renderEntries es := by
    rw [Text.ignoresPadding_trim.front, (tight_renderEntries h).trim_eq]
  have hnum := numbered?_label_append hlabel (' ' :: renderEntries es)
  rw [htext] at hnum
  rw [compileNumbered_of_numbered? hnum, compileLine_renderEntries h hn]

/-- A line with a number stays the same the second time. -/
lemma compileNumbered_numbered_again (h : numbered? line = some (label, text)) :
    compileNumbered .asWritten (compileNumbered .asWritten line)
      = compileNumbered .asWritten line := by
  rw [compileNumbered_of_numbered? h]
  exact compileNumbered_label_append (isLabel_of_numbered? h) (canonical_asWritten text)
    (nodup_entries _ _)

/-! ### Lines without a number -/

/-- What the first alternative of a line is followed by: its tags, other alternatives, or
nothing. -/
lemma exists_renderEntries_cons_eq (tags : List Text) (es : List Entry) :
    ∃ more, (∀ value, renderEntries (⟨value, tags⟩ :: es) = value ++ more)
      ∧ (more = [] ∨ ∃ x rest, more = ' ' :: x :: rest ∧ (x = ';' ∨ x = '&')) := by
  obtain ⟨inTags, htags, hsep⟩ := Text.exists_join_cons_eq " ; ".toList tags
  obtain ⟨others, hothers, hsep'⟩ := Text.exists_join_cons_eq " & ".toList (es.map Entry.render)
  refine ⟨inTags ++ others, fun value => ?_, ?_⟩
  · rw [renderEntries, List.map_cons, hothers, Entry.render, htags, List.append_assoc]
  · rcases hsep with rfl | ⟨rest, rfl⟩
    · rcases hsep' with rfl | ⟨rest, rfl⟩
      · exact Or.inl rfl
      · exact Or.inr ⟨'&', ' ' :: rest, rfl, Or.inr rfl⟩
    · exact Or.inr ⟨';', ' ' :: rest ++ others, rfl, Or.inl rfl⟩

/-- Whether unrolled alternatives look numbered is a question of the first value. -/
lemma numbered?_renderEntries_eq_none_iff (h : ∀ f ∈ e :: es, f.Canonical) :
    numbered? (renderEntries (e :: es)) = none ↔ numbered? e.value = none := by
  obtain ⟨more, hmore, hsep⟩ := exists_renderEntries_cons_eq e.tags es
  have htight := tight_renderEntries h
  have hvalue := (h e (by simp)).value_tight
  rw [hmore e.value] at htight ⊢
  constructor
  · intro hnone
    rw [Option.eq_none_iff_forall_ne_some]
    rintro ⟨label, text⟩ hsome
    obtain ⟨a, b, hab, ha, hlabel, -, -⟩ := numbered?_eq_some_iff.mp hsome
    rw [hvalue.trim_eq] at hab
    have hnum := numbered?_eq_some_iff.mpr
      ⟨a, b ++ more, by rw [htight.trim_eq, hab]; simp, ha, hlabel, rfl, rfl⟩
    rw [hnone] at hnum
    exact absurd hnum (by simp)
  · intro hnone
    rcases hsep with rfl | ⟨x, rest, rfl, hx⟩
    · rwa [List.append_nil]
    · -- after the value comes a mark that stands in no label
      rcases hx with rfl | rfl
      · exact numbered?_eq_none_of_append hvalue htight (by decide) (by decide) (by decide) hnone
      · exact numbered?_eq_none_of_append hvalue htight (by decide) (by decide) (by decide) hnone

/-- Whether the alternatives of a line without a number, once unrolled, are read as the same line:
the first value does not look numbered, or it reads `label. answer`, and the answer is no
alternative already. -/
def ReadsAgain : List Entry → Prop
  | [] => False
  | e :: es => numbered? e.value = none ∨ ∃ label answer : Text, isLabel label = true
      ∧ e.value = label ++ '.' :: ' ' :: answer ∧ answer.Tight ∧ ⟨answer, e.tags⟩ ∉ es

/-- A label in front of the first value stands in front of all that is unrolled. -/
lemma renderEntries_label_append (label answer : Text) (tags : List Text) (es : List Entry) :
    renderEntries (⟨label ++ '.' :: ' ' :: answer, tags⟩ :: es)
      = label ++ '.' :: ' ' :: renderEntries (⟨answer, tags⟩ :: es) := by
  obtain ⟨more, hmore, -⟩ := exists_renderEntries_cons_eq tags es
  rw [hmore, hmore]
  simp

/-- An alternative stays canonical with a label in front of its value. -/
lemma Entry.Canonical.label_append (h : e.Canonical) (hlabel : isLabel label = true) :
    Entry.Canonical ⟨label ++ '.' :: ' ' :: e.value, e.tags⟩ where
  value_ne := by simp
  value_tight := by
    have hvalue := Text.tight_append_append (m := ['.', ' ']) (tight_of_isLabel hlabel)
      h.value_tight (isLabel_iff.mp hlabel).1 h.value_ne
    simpa using hvalue
  value_free := by
    intro c hc
    simp only [List.mem_append, List.mem_cons] at hc
    rcases hc with hc | rfl | rfl | hc
    · have halnum := (isLabel_iff.mp hlabel).2 c hc
      refine ⟨?_, ?_, ?_⟩ <;> rintro rfl <;> exact absurd halnum (by decide)
    · decide
    · decide
    · exact h.value_free c hc
  tag_ne := h.tag_ne
  tag_tight := h.tag_tight
  tag_free := h.tag_free

/-- The answer after a label is canonical if the whole is and the answer begins with no blank. -/
lemma Entry.Canonical.of_label_append {answer : Text} (h : e.Canonical)
    (hvalue : e.value = label ++ '.' :: ' ' :: answer) (htight : answer.Tight) :
    Entry.Canonical ⟨answer, e.tags⟩ where
  value_ne := by
    rintro rfl
    have hlast := h.value_tight.last ' ' (by simp [hvalue])
    exact absurd hlast (by decide)
  value_tight := htight
  value_free := fun c hc => h.value_free c (by simp [hvalue, hc])
  tag_ne := h.tag_ne
  tag_tight := h.tag_tight
  tag_free := h.tag_free

/-- Alternatives unrolled without a number stay the same the second time exactly if they are read
as the same line. -/
lemma compileNumbered_renderEntries_iff (h : ∀ f ∈ e :: es, f.Canonical) (hn : (e :: es).Nodup) :
    compileNumbered .asWritten (renderEntries (e :: es)) = renderEntries (e :: es)
      ↔ ReadsAgain (e :: es) := by
  by_cases hvalue : numbered? e.value = none
  · -- without a number, the line is unrolled as a whole
    have hnone := (numbered?_renderEntries_eq_none_iff h).mpr hvalue
    refine iff_of_true ?_ (Or.inl hvalue)
    rw [compileNumbered_of_unnumbered hnone, (tight_renderEntries h).trim_eq,
      compileLine_renderEntries h hn]
  constructor
  · intro hagain
    obtain ⟨⟨label, text⟩, hnum⟩ := Option.ne_none_iff_exists'.mp
      (mt (numbered?_renderEntries_eq_none_iff h).mp hvalue)
    have hlabel := isLabel_of_numbered? hnum
    rw [compileNumbered_of_numbered? hnum, compileLine] at hagain
    cases hfs : entries .asWritten text with
    | nil =>
        -- the line would end with the blank after the point
        rw [hfs] at hagain
        have hend : (renderEntries (e :: es)).getLast? = some ' ' := by
          rw [← hagain]
          simp [renderEntries, Text.join]
        exact absurd ((tight_renderEntries h).last ' ' hend) (by decide)
    | cons f fs =>
        have hf : ∀ e ∈ f :: fs, e.Canonical := hfs ▸ canonical_asWritten text
        have hfn : (f :: fs).Nodup := hfs ▸ nodup_entries .asWritten text
        rw [hfs, ← renderEntries_label_append] at hagain
        -- what is unrolled to the same text is the same
        have heq := renderEntries_injective (fun g hg => ?_) h hagain
        · obtain ⟨rfl, rfl⟩ := List.cons.inj heq
          exact Or.inr ⟨label, f.value, hlabel, rfl, (hf f (by simp)).value_tight,
            (List.nodup_cons.mp hfn).1⟩
        · rcases List.mem_cons.mp hg with rfl | hg
          · exact (hf f (by simp)).label_append hlabel
          · exact hf g (List.mem_cons_of_mem _ hg)
  · rintro (hnone | ⟨label, answer, hlabel, hlabelled, htight, hnew⟩)
    · exact absurd hnone hvalue
    · -- the label is cut off and comes back, with a blank after the point
      have hcut : renderEntries (e :: es)
          = label ++ '.' :: ' ' :: renderEntries (⟨answer, e.tags⟩ :: es) := by
        rw [← renderEntries_label_append, ← hlabelled]
      rw [hcut]
      refine compileNumbered_label_append hlabel (fun f hf => ?_)
        (List.nodup_cons.mpr ⟨hnew, (List.nodup_cons.mp hn).2⟩)
      rcases List.mem_cons.mp hf with rfl | hf
      · exact (h e (by simp)).of_label_append hlabelled htight
      · exact h f (List.mem_cons_of_mem _ hf)

lemma renderEntries_eq_nil_iff (h : ∀ e ∈ es, e.Canonical) : renderEntries es = [] ↔ es = [] := by
  refine ⟨fun hnil => ?_, fun hes => by rw [hes]; rfl⟩
  exact renderEntries_injective h (by simp) hnil

section Faithful

variable {expand : Expander}

/-- A line is unrolled to nothing if it has neither a number nor alternatives. -/
lemma Expander.Faithful.compileNumbered_eq_nil_iff (h : expand.Faithful) (line : Text) :
    compileNumbered expand line = [] ↔ numbered? line = none ∧ entries expand line.trim = [] := by
  cases hnum : numbered? line with
  | none =>
      rw [compileNumbered_of_unnumbered hnum, compileLine,
        renderEntries_eq_nil_iff fun _ => canonical_of_mem_entries h.keepsFree]
      simp
  | some p =>
      obtain ⟨label, text⟩ := p
      rw [compileNumbered_of_numbered? hnum]
      simp

/-- An unrolled line is blank only if nothing is left of it. -/
lemma Expander.Faithful.blankLine_compileNumbered_iff (h : expand.Faithful) (line : Text) :
    blankLine (compileNumbered expand line) = true ↔ compileNumbered expand line = [] := by
  refine ⟨fun hblank => ?_, fun hnil => by rw [hnil]; rfl⟩
  rw [Text.blankLine_iff] at hblank
  cases hnum : numbered? line with
  | none =>
      rw [compileNumbered_of_unnumbered hnum] at hblank ⊢
      rwa [(h.tight_compileLine _).trim_eq] at hblank
  | some p =>
      obtain ⟨label, text⟩ := p
      have hlabel := isLabel_of_numbered? hnum
      rw [compileNumbered_of_numbered? hnum,
        Text.trim_append_of_tight (tight_of_isLabel hlabel) (isLabel_iff.mp hlabel).1] at hblank
      exact absurd (List.append_eq_nil_iff.mp hblank).1 (isLabel_iff.mp hlabel).1

end Faithful

lemma compileNumbered_eq_nil_iff (line : Text) :
    compileNumbered .asWritten line = []
      ↔ numbered? line = none ∧ entries .asWritten line.trim = [] :=
  Expander.faithful_asWritten.compileNumbered_eq_nil_iff line

lemma blankLine_compileNumbered_iff (line : Text) :
    blankLine (compileNumbered .asWritten line) = true ↔ compileNumbered .asWritten line = [] :=
  Expander.faithful_asWritten.blankLine_compileNumbered_iff line

/-- An unrolled line that is written stays the same exactly if the line has a number or its
alternatives are read as the same line. -/
lemma compileNumbered_again_iff (line : Text) :
    (blankLine (compileNumbered .asWritten line) = false
        ∧ compileNumbered .asWritten (compileNumbered .asWritten line)
          = compileNumbered .asWritten line)
      ↔ (numbered? line = none → ReadsAgain (entries .asWritten line.trim)) := by
  rw [← Bool.not_eq_true, blankLine_compileNumbered_iff, compileNumbered_eq_nil_iff]
  cases hnum : numbered? line with
  | some p => simp [compileNumbered_numbered_again hnum]
  | none =>
      rw [compileNumbered_of_unnumbered hnum, compileLine]
      have hcanonical := canonical_asWritten line.trim
      have hnodup := nodup_entries .asWritten line.trim
      cases hes : entries .asWritten line.trim with
      | nil => simp [ReadsAgain]
      | cons e es =>
          rw [hes] at hcanonical hnodup
          simp [compileNumbered_renderEntries_iff hcanonical hnodup]

/-! ### Whole keys -/

namespace Expander.Faithful

variable {expand : Expander}

/-- Unrolled alternatives hold no line feed. -/
lemma no_feed_compileLine (h : expand.Faithful) (hline : '\n' ∉ line) :
    '\n' ∉ compileLine expand line := by
  intro hmem
  rcases mem_renderEntries hmem with hmem | hmem | ⟨e, he, hmem⟩
  · exact absurd hmem (by decide)
  · exact absurd hmem (by decide)
  rw [entries_eq_forms, List.mem_eraseDups, List.mem_flatMap] at he
  obtain ⟨w, hw, he⟩ := he
  obtain ⟨form, hform, rfl⟩ := List.mem_map.mp he
  rcases hmem with hmem | htag
  · obtain ⟨⟨p, hp, rfl⟩, -⟩ := mem_trimmedParts.mp hform
    refine h.no_feed w.value (fun c hc => ?_) p hp '\n' (Text.mem_of_mem_trim hmem) rfl
    rintro rfl
    exact hline (mem_line_of_mem_entries hw (Or.inl hc))
  · exact hline (mem_line_of_mem_entries hw (Or.inr htag))

/-- An unrolled line is a line. -/
lemma isLine_compileNumbered (h : expand.Faithful) (hline : '\n' ∉ line) :
    IsLine (compileNumbered expand line) := by
  have hreturn : ∀ l : Text, (compileLine expand l).getLast? ≠ some '\r' := fun l hl =>
    absurd ((h.tight_compileLine l).last '\r' hl) (by decide)
  cases hnum : numbered? line with
  | none =>
      rw [compileNumbered_of_unnumbered hnum]
      exact ⟨h.no_feed_compileLine fun hmem => hline (Text.mem_of_mem_trim hmem), hreturn _⟩
  | some p =>
      obtain ⟨label, text⟩ := p
      rw [compileNumbered_of_numbered? hnum]
      refine ⟨fun hmem => ?_, fun hlast => ?_⟩
      · simp only [List.mem_append, List.mem_cons] at hmem
        rcases hmem with hmem | hmem | hmem | hmem
        · exact hline (mem_of_numbered? hnum (Or.inl hmem))
        · exact absurd hmem (by decide)
        · exact absurd hmem (by decide)
        · refine h.no_feed_compileLine (fun hmem => ?_) hmem
          exact hline (mem_of_numbered? hnum (Or.inr hmem))
      · -- the line ends like the unrolled text, or with the blank before it
        rw [List.getLast?_append_of_ne_nil _ (by simp)] at hlast
        cases hc : compileLine expand text with
        | nil => simp [hc] at hlast
        | cons x s =>
            rw [hc, List.getLast?_cons_cons, List.getLast?_cons_cons, ← hc] at hlast
            exact hreturn text hlast

lemma isLine_of_mem_compileKey (h : expand.Faithful) {s : Text} :
    ∀ l ∈ (writtenLines s).map (compileNumbered expand), IsLine l := by
  intro l hl
  obtain ⟨line, hline, rfl⟩ := List.mem_map.mp hl
  exact h.isLine_compileNumbered (Text.newline_notMem_of_mem_writtenLines hline)

/-- The written lines of an unrolled key are the unrolled lines that are not blank. -/
lemma writtenLines_compileKey (h : expand.Faithful) (s : Text) :
    writtenLines (compileKey expand s)
      = ((writtenLines s).map (compileNumbered expand)).filter fun l => !blankLine l :=
  Text.writtenLines_join h.isLine_of_mem_compileKey

/-- A line end after an unrolled key makes no difference. -/
lemma writtenLines_compileKey_concat (h : expand.Faithful) (s : Text) :
    writtenLines (compileKey expand s ++ ['\n']) = writtenLines (compileKey expand s) :=
  Text.writtenLines_join_concat h.isLine_of_mem_compileKey

end Expander.Faithful

lemma isLine_of_mem_compileKey {s : Text} :
    ∀ l ∈ (writtenLines s).map (compileNumbered .asWritten), IsLine l :=
  Expander.faithful_asWritten.isLine_of_mem_compileKey

lemma writtenLines_compileKey (s : Text) :
    writtenLines (compileKey .asWritten s)
      = ((writtenLines s).map (compileNumbered .asWritten)).filter fun l => !blankLine l :=
  Expander.faithful_asWritten.writtenLines_compileKey s

lemma writtenLines_compileKey_concat (s : Text) :
    writtenLines (compileKey .asWritten s ++ ['\n']) = writtenLines (compileKey .asWritten s) :=
  Expander.faithful_asWritten.writtenLines_compileKey_concat s

/-- Whether an unrolled key is read as the same key: so is each of its lines without a number, or
there is but one line and nothing is left of it. -/
def KeyReadsAgain (s : Text) : Prop :=
  (∀ line ∈ writtenLines s, numbered? line = none → ReadsAgain (entries .asWritten line.trim))
    ∨ ∃ line, writtenLines s = [line] ∧ numbered? line = none
      ∧ entries .asWritten line.trim = []

/-- Lines are what is made of those of them that count exactly if all of them count and stay the
same. -/
lemma map_filter_eq_self_iff {p : Text → Bool} {f : Text → Text} {ls : List Text} :
    (ls.filter p).map f = ls ↔ ∀ l ∈ ls, p l = true ∧ f l = l := by
  constructor
  · intro h
    have hall : ∀ l ∈ ls, p l = true := by
      rw [← List.length_filter_eq_length_iff]
      conv_rhs => rw [← h]
      rw [List.length_map]
    rw [List.filter_eq_self.mpr hall] at h
    exact fun l hl => ⟨hall l hl, List.map_inj_left.mp (h.trans (List.map_id ls).symm) l hl⟩
  · intro h
    rw [List.filter_eq_self.mpr fun l hl => (h l hl).1]
    conv_rhs => rw [← List.map_id ls]
    exact List.map_congr_left fun l hl => (h l hl).2

/-- All the lines of an unrolled key stay the same the second time exactly if each line without a
number is read as the same line. -/
lemma map_writtenLines_compileKey_iff (s : Text) :
    (writtenLines (compileKey .asWritten s)).map (compileNumbered .asWritten)
        = (writtenLines s).map (compileNumbered .asWritten)
      ↔ ∀ line ∈ writtenLines s, numbered? line = none →
          ReadsAgain (entries .asWritten line.trim) := by
  rw [writtenLines_compileKey, map_filter_eq_self_iff]
  simp only [List.forall_mem_map, Bool.not_eq_true', compileNumbered_again_iff]

/-- Nothing but one empty line is left of a key of one line that is unrolled to nothing. -/
lemma map_compileNumbered_eq_iff (s : Text) :
    (writtenLines s).map (compileNumbered .asWritten) = [[]]
      ↔ ∃ line, writtenLines s = [line] ∧ numbered? line = none
        ∧ entries .asWritten line.trim = [] := by
  simp only [List.map_eq_singleton_iff, compileNumbered_eq_nil_iff]

/-- Unrolling a second time gives the same key exactly if the key is read as the same key. -/
lemma compileKey_again_iff (s : Text) :
    compileKey .asWritten (compileKey .asWritten s) = compileKey .asWritten s
      ↔ KeyReadsAgain s := by
  have hcut := Text.join_lines_eq_iff (isLine_of_mem_compileKey (s := compileKey .asWritten s))
    (isLine_of_mem_compileKey (s := s))
  rw [← compileKey, ← compileKey] at hcut
  rw [hcut, KeyReadsAgain, map_writtenLines_compileKey_iff, map_compileNumbered_eq_iff]
  refine or_congr_right ⟨?_, fun h => Or.inl ⟨?_, h⟩⟩
  · rintro (⟨-, h⟩ | ⟨hone, hnone⟩)
    · exact h
    · -- without lines there is nothing to unroll the second time
      rw [writtenLines_compileKey, hnone] at hone
      simp at hone
  · rw [writtenLines_compileKey, (map_compileNumbered_eq_iff s).mpr h]
    rfl

/-- A key that is read as the same key has no line that a second time changes. -/
lemma changed_recompile_again {s : Text} (h : KeyReadsAgain s) :
    (recompile .asWritten (recompile .asWritten s).text).changed = 0 := by
  have hagain : compileKey .asWritten (compileKey .asWritten s ++ ['\n'])
      = compileKey .asWritten s := by
    rw [compileKey, writtenLines_compileKey_concat, ← compileKey]
    exact (compileKey_again_iff s).mpr h
  simp only [recompile, hagain, writtenLines_compileKey_concat]
  rw [List.count_eq_zero]
  rcases h with h | h
  · -- the lines before and after are the same
    have hwritten := writtenLines_compileKey s
    have hblank : ∀ l ∈ (writtenLines s).map (compileNumbered .asWritten),
        (!blankLine l) = true := by
      intro l hl
      obtain ⟨line, hline, rfl⟩ := List.mem_map.mp hl
      simpa using ((compileNumbered_again_iff line).mpr (h line hline)).1
    rw [List.filter_eq_self.mpr hblank] at hwritten
    have hlines : Text.lines (compileKey .asWritten s)
        = (writtenLines s).map (compileNumbered .asWritten) := by
      refine Text.lines_join isLine_of_mem_compileKey fun l hl hnil => ?_
      have := hblank l hl
      rw [hnil] at this
      exact absurd this (by decide)
    rw [hwritten, hlines, List.zipWith_self]
    simp
  · rw [writtenLines_compileKey, (map_compileNumbered_eq_iff s).mpr h]
    exact List.not_mem_nil

/-- **Unrolling a key a second time** changes nothing exactly of a key that is read as the same key,
and of its file: the same text is written, and no line is different. -/
theorem compileKey_asWritten_idempotent_iff (s : Text) :
    let once := recompile .asWritten s
    let twice := recompile .asWritten once.text
    (compileKey .asWritten (compileKey .asWritten s) = compileKey .asWritten s ↔ KeyReadsAgain s)
      ∧ (twice.text = once.text ∧ twice.changed = 0 ↔ KeyReadsAgain s) := by
  refine ⟨compileKey_again_iff s, fun ⟨htext, _⟩ => ?_, fun h => ⟨?_, changed_recompile_again h⟩⟩
  · rw [← compileKey_again_iff]
    have := List.append_cancel_right htext
    rwa [recompile, compileKey, writtenLines_compileKey_concat, ← compileKey] at this
  · simp only [recompile]
    rw [compileKey, writtenLines_compileKey_concat, ← compileKey, (compileKey_again_iff s).mpr h]

/-- A decimal answer after an empty alternative looks numbered when nothing stands in front of it
any more. -/
theorem compileKey_asWritten_not_idempotent :
    let once := recompile .asWritten "& 1.5\n".toList
    once = ⟨"1.5\n".toList, 1, 1⟩
      ∧ recompile .asWritten once.text = ⟨"1. 5\n".toList, 1, 1⟩ := by
  decide

end Grading
