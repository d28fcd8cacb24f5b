/-
Trimming: what it leaves of a text, and which texts it leaves as they are.

* `Tight`: no blank at either end;
* `tight_trim`, `Tight.trim_eq`: trimming gives a tight text and changes no tight one, so that
  trimming twice is trimming once (`trim_trim`);
* `trim_blanks_append`, `trim_append_blanks`: blanks around a text do not matter;
* `trim_eq_nil_iff`: nothing is left exactly of a blank text;
* `squeeze_eq_self`: a text without blanks loses none.
-/
import Grading.Text.Blank
import Mathlib.Data.List.DropRight
import Mathlib.Tactic

namespace Grading

namespace Text

variable {s a b : Text} {c : Char}

/-- A text without blanks at its ends. -/
structure Tight (s : Text) : Prop where
  head : ∀ c ∈ s.head?, isBlank c = false
  last : ∀ c ∈ s.getLast?, isBlank c = false

lemma isBlank_space : isBlank ' ' = true := by decide

lemma trimEnd_eq (s : Text) : trimEnd s = s.rdropWhile isBlank := rfl

/-! ### What trimming leaves -/

lemma trimStart_suffix_self (s : Text) : trimStart s <:+ s := List.dropWhile_suffix _

lemma trimEnd_prefix_self (s : Text) : trimEnd s <+: s := List.rdropWhile_prefix _ _

lemma mem_of_mem_trim (h : c ∈ trim s) : c ∈ s :=
  (trimStart_suffix_self s).mem ((trimEnd_prefix_self _).mem h)

lemma length_trim_le (s : Text) : s.trim.length ≤ s.length :=
  (trimEnd_prefix_self _).length_le.trans (trimStart_suffix_self s).length_le

/-- Trimming gives a tight text. -/
lemma tight_trim (s : Text) : Tight (trim s) where
  head := by
    intro c hc
    -- the text keeps its first character when blanks are dropped from its end
    obtain ⟨t, ht⟩ := trimEnd_prefix_self (trimStart s)
    have hhead : (trimStart s).head? = some c := by
      rw [← ht, List.head?_append, show (trimEnd (trimStart s)).head? = some c from hc]
      rfl
    have hnot := List.head?_dropWhile_not isBlank s
    rw [show (s.dropWhile isBlank).head? = some c from hhead] at hnot
    simpa using hnot
  last := by
    intro c hc
    have hne : trim s ≠ [] := by rintro h; simp [h] at hc
    have hlast := List.rdropWhile_last_not isBlank (trimStart s) hne
    rw [Option.mem_def, List.getLast?_eq_some_getLast hne, Option.some.injEq] at hc
    rw [← hc]
    exact Bool.eq_false_iff.mpr hlast

/-! ### Tight texts -/

lemma tight_nil : Tight [] := ⟨by simp, by simp⟩

/-- A text without blanks is tight. -/
lemma tight_of_forall_not_blank (h : ∀ c ∈ s, isBlank c = false) : Tight s :=
  ⟨fun c hc => h c (List.mem_of_mem_head? hc), fun c hc => h c (List.mem_of_getLast? hc)⟩

/-- A tight text is what trimming leaves of it. -/
lemma Tight.trim_eq (h : Tight s) : trim s = s := by
  have hstart : trimStart s = s := by
    cases s with
    | nil => rfl
    | cons c s =>
        rw [trimStart, List.dropWhile_cons_of_neg]
        simp [h.head c rfl]
  rw [trim, hstart, trimEnd_eq, List.rdropWhile_eq_self_iff]
  intro hne
  simp [h.last _ (List.getLast?_eq_some_getLast hne)]

@[simp] lemma trim_trim (s : Text) : trim (trim s) = trim s := (tight_trim s).trim_eq

/-- A text that begins and ends without a blank is tight, whatever stands between. -/
lemma tight_append_append {m : Text} (ha : Tight a) (hb : Tight b) (hane : a ≠ []) (hbne : b ≠ []) :
    Tight (a ++ m ++ b) where
  head := by
    intro c hc
    rw [List.append_assoc, List.head?_append_of_ne_nil _ hane] at hc
    exact ha.head c hc
  last := by
    intro c hc
    rw [List.getLast?_append_of_ne_nil _ hbne] at hc
    exact hb.last c hc

/-! ### Blanks around a text -/

/-- Nothing is left exactly of a text of blanks. -/
lemma trim_eq_nil_iff : trim s = [] ↔ ∀ c ∈ s, isBlank c = true := by
  rw [trim, trimEnd_eq, List.rdropWhile_eq_nil_iff]
  refine ⟨fun h => ?_, fun h c hc => h c ((trimStart_suffix_self s).mem hc)⟩
  -- a first character left by `trimStart` would be no blank
  have hnil : trimStart s = [] := by
    by_contra hne
    have hblank := h _ (List.head_mem hne)
    exact Bool.false_ne_true ((List.head_dropWhile_not isBlank hne).symm.trans hblank)
  exact List.dropWhile_eq_nil_iff.mp hnil

lemma blankLine_iff : blankLine s = true ↔ trim s = [] := by
  rw [trim_eq_nil_iff, blankLine, List.all_eq_true]

/-- Blanks in front do not matter. -/
lemma trim_blanks_append (ha : ∀ c ∈ a, isBlank c = true) : trim (a ++ s) = trim s := by
  rw [trim, trimStart, List.dropWhile_append_of_pos ha]
  rfl

/-- Blanks at the end do not matter. -/
lemma trim_append_blanks (hb : ∀ c ∈ b, isBlank c = true) : trim (s ++ b) = trim s := by
  by_cases hs : ∀ c ∈ s, isBlank c = true
  · rw [trim_eq_nil_iff.mpr hs, trim_eq_nil_iff]
    intro c hc
    rcases List.mem_append.mp hc with hc | hc
    · exact hs c hc
    · exact hb c hc
  · have hne : (s.dropWhile isBlank).isEmpty = false := by
      simpa [List.isEmpty_eq_false_iff, List.dropWhile_eq_nil_iff] using hs
    rw [trim, trimStart, List.dropWhile_append, hne, if_neg (by simp), trimEnd, List.reverse_append,
      List.dropWhile_append_of_pos (by simpa using hb)]
    rfl

/-- A text is its trimmed form with blanks around it. -/
lemma exists_blanks_trim_blanks (s : Text) :
    ∃ a b, (∀ c ∈ a, isBlank c = true) ∧ (∀ c ∈ b, isBlank c = true) ∧ s = a ++ trim s ++ b := by
  refine ⟨s.takeWhile isBlank, (trimStart s).rtakeWhile isBlank, ?_, ?_, ?_⟩
  · exact fun c hc => List.mem_takeWhile_imp hc
  · exact fun c hc => List.mem_rtakeWhile_imp hc
  · rw [trim, trimEnd_eq, List.append_assoc, List.rdropWhile_append_rtakeWhile]
    exact (List.takeWhile_append_dropWhile).symm

/-- Trimming takes away nothing but blanks. -/
lemma mem_trim_of_not_blank (h : c ∈ s) (hc : isBlank c = false) : c ∈ trim s := by
  obtain ⟨a, b, ha, hb, hs⟩ := exists_blanks_trim_blanks s
  rw [hs, List.mem_append, List.mem_append] at h
  rcases h with (h | h) | h
  · exact absurd (ha c h) (by simp [hc])
  · exact h
  · exact absurd (hb c h) (by simp [hc])

/-- A text in front that has no blanks at its ends is left by trimming. -/
lemma trim_append_of_tight (ha : Tight a) (hne : a ≠ []) (s : Text) :
    trim (a ++ s) = a ++ trimEnd s := by
  obtain ⟨b, hb, hs⟩ : ∃ b, (∀ c ∈ b, isBlank c = true) ∧ s = trimEnd s ++ b :=
    ⟨s.rtakeWhile isBlank, fun c hc => List.mem_rtakeWhile_imp hc,
      List.rdropWhile_append_rtakeWhile.symm⟩
  have htight : Tight (a ++ trimEnd s) := by
    refine ⟨fun c hc => ?_, fun c hc => ?_⟩
    · rw [List.head?_append_of_ne_nil _ hne] at hc
      exact ha.head c hc
    · by_cases hend : trimEnd s = []
      · rw [hend, List.append_nil] at hc
        exact ha.last c hc
      · rw [List.getLast?_append_of_ne_nil _ hend, List.getLast?_eq_some_getLast hend] at hc
        have hlast := List.rdropWhile_last_not isBlank s hend
        rw [← Option.some.inj hc]
        exact Bool.eq_false_iff.mpr hlast
  conv_lhs => rw [hs, ← List.append_assoc]
  rw [trim_append_blanks hb, htight.trim_eq]

lemma trim_trimEnd (s : Text) : trim (trimEnd s) = trim s := by
  have hs : s = trimEnd s ++ s.rtakeWhile isBlank := List.rdropWhile_append_rtakeWhile.symm
  conv_rhs => rw [hs]
  rw [trim_append_blanks fun c hc => List.mem_rtakeWhile_imp hc]

/-! ### All blanks -/

lemma squeeze_eq_self (h : ∀ c ∈ s, isBlank c = false) : squeeze s = s := by
  rw [squeeze, List.filter_eq_self]
  intro c hc
  simp [h c hc]

lemma squeeze_squeeze (s : Text) : squeeze (squeeze s) = squeeze s :=
  squeeze_eq_self fun c hc => by simpa using (List.mem_filter.mp hc).2

end Text

end Grading
